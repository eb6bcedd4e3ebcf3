import ContainerBuild.Flavor
import ContainerBuild.Quote

/-!
# System packages

The commands that install system packages and create the user of the final image,
in the syntax of each flavor.
-/

namespace ContainerBuild.Packages

/-- The mounts that keep the caches of `apt`, which needs them for itself. -/
def aptMounts : String :=
  "--mount=type=cache,target=/var/cache/apt,sharing=locked " ++
    "--mount=type=cache,target=/var/lib/apt,sharing=locked"

/-- The mount that keeps the cache of `apk`. -/
def apkMount : String := "--mount=type=cache,target=/var/cache/apk,sharing=locked"

/-- The tools that find and strip shared objects. -/
def stripTools : List String := ["file", "binutils"]

/-- The number of the unprivileged user and of its group. -/
def userId : String := "65532"

/-- The name of the unprivileged user. -/
def userName : String := "nonroot"

/-- The home of the unprivileged user. -/
def userHome : String := "/home/nonroot"

/-- Installs packages and keeps what was downloaded in a cache mount. -/
def cachedInstall (flavor : Flavor) (packages : List String) : String :=
  match flavor with
  | .debian =>
    aptMounts ++ " rm -f /etc/apt/apt.conf.d/docker-clean && apt-get update && " ++
      "apt-get install -y --no-install-recommends " ++ Quote.shellWords packages
  | .alpine => apkMount ++ " apk add --update-cache " ++ Quote.shellWords packages

/-- Installs the packages that only the build needs, if there are any. -/
def buildInstall (flavor : Flavor) (packages : List String) : Option String :=
  if packages.isEmpty then none else some (cachedInstall flavor packages)

/-- Installs the tools that the clean-up needs. -/
def stripToolsInstall (flavor : Flavor) : String := cachedInstall flavor stripTools

/-- Installs the packages of the final image, if there are any, and drops the package
index. -/
def runtimeInstall (flavor : Flavor) (packages : List String) : Option String :=
  if packages.isEmpty then none
  else
    match flavor with
    | .debian => some <|
      "apt-get update && apt-get install -y --no-install-recommends " ++
        Quote.shellWords packages ++ " && rm -rf /var/lib/apt/lists/*"
    | .alpine => some <|
      "apk add --update-cache " ++ Quote.shellWords packages ++ " && rm -rf /var/cache/apk/*"

/-- Creates the unprivileged user and its group. -/
def createUser : Flavor → String
  | .debian =>
    "useradd --uid=" ++ userId ++ " --user-group --home-dir=" ++ userHome ++
      " --create-home " ++ userName
  | .alpine =>
    "addgroup -g " ++ userId ++ " " ++ userName ++ " && adduser -D -u " ++ userId ++
      " -G " ++ userName ++ " -h " ++ userHome ++ " " ++ userName

end ContainerBuild.Packages
