import ContainerBuild.Proofs.PackageIndex.Credentials
import ContainerBuild.Script.Compile
import Mathlib.Data.List.Forall2

/-!
# Literal credentials beside secrets

The compiler looks at an index through its URL, its trust and its two credentials, and so two
indices that agree on these are compiled alike. A field for a secret decides a credential on its
own as soon as it is given: whatever the literal field beside it says, or whether there is one,
neither the script nor an error tells.
-/

namespace ContainerBuild

namespace PackageIndex

/-- Two indices agree on all that the compiler looks at. -/
structure Agree (i j : PackageIndex) : Prop where
  url : i.url = j.url
  trust : i.trust = j.trust
  username : i.usernameCredential = j.usernameCredential
  password : i.passwordCredential = j.passwordCredential

variable {i j : PackageIndex}

/-- Every index agrees with itself. -/
theorem Agree.refl (i : PackageIndex) : i.Agree i := ⟨rfl, rfl, rfl, rfl⟩

/-- Indices that agree read the same secrets. -/
theorem Agree.secretIds_eq (h : i.Agree j) : i.secretIds = j.secretIds := by
  rw [secretIds, secretIds, h.username, h.password]

private theorem Agree.render_eq (h : i.Agree j) : IndexOption.render i = IndexOption.render j := by
  have hurl : IndexOption.urlOf i = IndexOption.urlOf j := by
    rw [IndexOption.urlOf, IndexOption.urlOf, h.url, h.username, h.password]
  have hword (u : Url) : IndexOption.word i u = IndexOption.word j u := by
    rw [IndexOption.word, IndexOption.word, IndexOption.pieces, IndexOption.pieces, usesSecrets,
      usesSecrets, h.secretIds_eq, h.username, h.password]
  rw [IndexOption.render, IndexOption.render, hurl, h.trust]
  simp only [hword]

private theorem agree_password (h : Credential.isGiven i.passwordSecret = true)
    (password : Option String) : Agree { i with password } i := by
  refine ⟨rfl, rfl, rfl, ?_⟩
  rw [passwordCredential, passwordCredential, Credential.pick_of_isGiven h,
    Credential.pick_of_isGiven h]

private theorem agree_username (h : Credential.isGiven i.usernameSecret = true)
    (username : Option String) : Agree { i with username } i := by
  refine ⟨rfl, rfl, ?_, rfl⟩
  rw [usernameCredential, usernameCredential, Credential.pick_of_isGiven h,
    Credential.pick_of_isGiven h]

end PackageIndex

namespace Script

open PackageIndex (Agree)

variable {c : Config} {params : Dict String} {indices others before behind : List PackageIndex}
  {i : PackageIndex}

private theorem indexOptions_congr (label : String) (h : List.Forall₂ Agree indices others) :
    indexOptions label indices = indexOptions label others := by
  induction h with
  | nil => rfl
  | cons hi _ ih => rw [indexOptions, indexOptions, hi.render_eq, hi.url, ih]

private theorem secretIds_congr (h : List.Forall₂ Agree indices others) :
    secretIds indices = secretIds others := by
  have hids : indices.flatMap (·.secretIds) = others.flatMap (·.secretIds) := by
    induction h with
    | nil => rfl
    | cons hi _ ih => rw [List.flatMap_cons, List.flatMap_cons, hi.secretIds_eq, ih]
  rw [secretIds, secretIds, hids]

/-- Configurations whose indices agree are compiled to the same script, or to the same error. -/
theorem compile_congr (h : List.Forall₂ Agree indices c.indices) :
    compile { c with indices } params = compile c params := by
  have hinstall : installDependencies { c with indices } = installDependencies c := by
    simp only [installDependencies, installMounts, installSubjects, Config.label,
      indexOptions_congr _ h, secretIds_congr h]
  have hbuilder : builderSteps { c with indices } = builderSteps c := by
    rw [builderSteps, builderSteps, hinstall]
    rfl
  rw [compile, compile, compileStage, compileStage, hbuilder]
  rfl

private theorem forall₂_agree_replace {j : PackageIndex} (h : j.Agree i) :
    List.Forall₂ Agree (before ++ j :: behind) (before ++ i :: behind) := by
  have hrefl (indices : List PackageIndex) : List.Forall₂ Agree indices indices :=
    List.forall₂_same.mpr fun i _ ↦ Agree.refl i
  exact List.rel_append (hrefl before) (.cons h (hrefl behind))

/-- When a secret gives the password of an index, or its user name, any other literal text for
it, or none, leads to the same script or to the same error. -/
theorem compile_literal_credential (hc : c.indices = before ++ i :: behind) :
    ((∃ id, i.passwordSecret = some id ∧ Text.trim id ≠ "") → ∀ password,
      compile { c with indices := before ++ { i with password } :: behind } params =
        compile c params) ∧
    ((∃ id, i.usernameSecret = some id ∧ Text.trim id ≠ "") → ∀ username,
      compile { c with indices := before ++ { i with username } :: behind } params =
        compile c params) := by
  constructor
  · rintro ⟨id, hid, hne⟩ password
    have hgiven : Credential.isGiven i.passwordSecret = true := by
      rw [hid]
      exact Credential.isGiven_some.mpr hne
    have hagree := PackageIndex.agree_password hgiven password
    exact compile_congr (hc ▸ forall₂_agree_replace hagree)
  · rintro ⟨id, hid, hne⟩ username
    have hgiven : Credential.isGiven i.usernameSecret = true := by
      rw [hid]
      exact Credential.isGiven_some.mpr hne
    have hagree := PackageIndex.agree_username hgiven username
    exact compile_congr (hc ▸ forall₂_agree_replace hagree)

/-- A password that is spelled out beside its secret can be taken away. -/
theorem compile_literal_credential_removed :
    let i : PackageIndex :=
      ⟨"https://host/simple", some "user", none, some "hunter2", some "pip.token", false⟩
    let c : Config := { dependencies := ["flask"], indices := [i] }
    (c.indices = [] ++ i :: [] ∧ i.passwordSecret = some "pip.token" ∧
      Text.trim "pip.token" ≠ "") ∧
      compile { c with indices := [] ++ { i with password := none } :: [] } .empty =
        compile c .empty ∧
      (compile c .empty).toOption.isSome = true := by
  intro i c
  have hne : Text.trim "pip.token" ≠ "" := by decide
  refine ⟨⟨rfl, rfl, hne⟩, ?_, by decide +kernel⟩
  exact (@compile_literal_credential c .empty [] [] i rfl).1 ⟨"pip.token", rfl, hne⟩ none

end Script

end ContainerBuild
