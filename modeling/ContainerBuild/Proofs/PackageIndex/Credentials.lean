import ContainerBuild.PackageIndex
import ContainerBuild.Proofs.Text.Trim

/-!
# Where credentials come from

A field for a secret decides a credential as soon as it is not blank, whatever the literal field
beside it says. The secrets of an index are therefore those that its two fields for secrets name.
-/

namespace ContainerBuild

namespace Credential

variable {secret : Option String} {id : String}

/-- A text is given when it is not blank. -/
theorem isGiven_some {text : String} : isGiven (some text) = true ↔ Text.trim text ≠ "" := by
  simp only [isGiven, bne_iff_ne, ne_eq, Text.nonBlank?]
  split
  · next h => simp [h]
  · next h => simp [h]

/-- A field for a secret that is given is the credential. -/
theorem pick_of_isGiven (h : isGiven secret = true) (plain : Option String) :
    pick secret plain = secret.map .secret := by
  cases secret with
  | none => cases h
  | some id => simp [pick, Option.filter, h]

/-- Without a field for a secret that is given, the literal field is the credential. -/
theorem pick_of_not_isGiven (h : isGiven secret = false) (plain : Option String) :
    pick secret plain = (plain.filter fun s ↦ isGiven (some s)).map .plain := by
  have hf : secret.filter (fun s ↦ isGiven (some s)) = none := by
    rw [Option.filter_eq_none_iff]
    rintro text rfl
    simpa using h
  rw [pick, hf]

private theorem pick_eq_secret_iff {plain : Option String} :
    pick secret plain = some (.secret id) ↔ secret = some id ∧ Text.trim id ≠ "" := by
  cases hs : isGiven secret with
  | true =>
    rw [pick_of_isGiven hs, Option.map_eq_some_iff]
    constructor
    · rintro ⟨text, rfl, h⟩
      obtain rfl : text = id := Credential.secret.inj h
      exact ⟨rfl, isGiven_some.mp hs⟩
    · rintro ⟨rfl, -⟩
      exact ⟨id, rfl, rfl⟩
  | false =>
    refine iff_of_false ?_ ?_
    · simp [pick_of_not_isGiven hs]
    · rintro ⟨rfl, hid⟩
      rw [isGiven_some.mpr hid] at hs
      cases hs

private theorem pick_eq_plain_iff {plain : Option String} {text : String} :
    pick secret plain = some (.plain text) ↔
      isGiven secret = false ∧ plain = some text ∧ Text.trim text ≠ "" := by
  cases hs : isGiven secret with
  | true =>
    refine iff_of_false ?_ (by simp)
    rw [pick_of_isGiven hs, Option.map_eq_some_iff]
    rintro ⟨id, -, h⟩
    cases h
  | false => simp [pick_of_not_isGiven hs, isGiven_some]

/-- The text of a credential that is spelled out. -/
def plainText? : Credential → Option String
  | .secret _ => none
  | .plain text => some text

/-- A text that is spelled out is not empty. -/
theorem ne_empty_of_bind_plainText?_pick {plain : Option String} {text : String}
    (h : (pick secret plain).bind plainText? = some text) : text ≠ "" := by
  rintro rfl
  rcases hpick : pick secret plain with _ | (id | text)
  · rw [hpick] at h
    cases h
  · rw [hpick] at h
    cases h
  · rw [hpick] at h
    obtain rfl := Option.some.inj h
    exact (pick_eq_plain_iff.mp hpick).2.2 (by decide)

end Credential

namespace PackageIndex

variable {i : PackageIndex} {id : String}

/-- One of the two fields for secrets names the given secret; a blank field names none. -/
def Names (i : PackageIndex) (id : String) : Prop :=
  (i.usernameSecret = some id ∨ i.passwordSecret = some id) ∧ Text.trim id ≠ ""

/-- The secrets that the fields for them name, user name first; a blank field names none. -/
def namedSecrets (i : PackageIndex) : List String :=
  (i.usernameSecret.toList ++ i.passwordSecret.toList).filter (Text.trim · ≠ "")

private theorem bind_secretId?_pick (secret plain : Option String) :
    (Credential.pick secret plain).bind Credential.secretId? =
      secret.filter (Text.trim · ≠ "") := by
  ext id
  rw [Option.filter_eq_some_iff, decide_eq_true_iff,
    ← @Credential.pick_eq_secret_iff secret id plain, Option.bind_eq_some_iff]
  constructor
  · rintro ⟨credential, hc, h⟩
    cases credential with
    | secret text =>
      obtain rfl : text = id := Option.some.inj h
      exact hc
    | plain text => cases h
  · intro h
    exact ⟨_, h, rfl⟩

/-- The secrets that an index reads are those that its fields name. -/
theorem secretIds_eq (i : PackageIndex) : i.secretIds = i.namedSecrets := by
  have hfields {a b : Option String} (p : String → Bool) :
      [a, b].filterMap (Option.filter p) = (a.toList ++ b.toList).filter p := by
    rw [List.filter_append, ← Option.toList_filter, ← Option.toList_filter]
    cases ha : a.filter p <;> cases hb : b.filter p <;> simp [ha, hb]
  rw [namedSecrets, ← hfields, secretIds, usernameCredential, passwordCredential]
  simp only [List.filterMap_cons, List.filterMap_nil, bind_secretId?_pick]

/-- A secret that an index reads is one that its fields name. -/
theorem mem_secretIds : id ∈ i.secretIds ↔ i.Names id := by
  rw [secretIds_eq, namedSecrets, Names, List.mem_filter, List.mem_append, Option.mem_toList,
    Option.mem_toList, decide_eq_true_iff]

/-- A credential that is a secret is one of the secrets. -/
theorem mem_secretIds_of_credential
    (h : i.usernameCredential = some (.secret id) ∨ i.passwordCredential = some (.secret id)) :
    id ∈ i.secretIds := by
  rw [secretIds, List.mem_filterMap]
  rcases h with h | h
  · exact ⟨_, List.mem_cons_self, by rw [h]; rfl⟩
  · exact ⟨_, List.mem_cons_of_mem _ List.mem_cons_self, by rw [h]; rfl⟩

/-- An index uses secrets exactly when one of its fields names one. -/
theorem usesSecrets_iff : i.usesSecrets = true ↔ ∃ id, i.Names id := by
  simp only [usesSecrets, Bool.not_eq_true', List.isEmpty_eq_false_iff_exists_mem, mem_secretIds]

end PackageIndex

end ContainerBuild
