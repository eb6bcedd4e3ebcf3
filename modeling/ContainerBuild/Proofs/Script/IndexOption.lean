import ContainerBuild.Proofs.Config.Resolved
import ContainerBuild.Proofs.Quote.OneLine
import ContainerBuild.Proofs.Url.Printable
import ContainerBuild.Script.IndexOption

/-!
# Pieces of index options

The word for a URL is put together from pieces. The secrets among them are those of the index,
and the literal texts are printable, for a URL is printable and stays so with credentials.
-/

namespace ContainerBuild.IndexOption

open Text (IsOneLine)

variable {i : PackageIndex} {u v : Url} {id : String}

/-- The secrets in the pieces of a URL are those of its index. -/
theorem mem_secretIds_of_mem_pieces (h : .secret id ∈ pieces i u) : id ∈ i.secretIds := by
  rw [PackageIndex.secretIds]
  simp only [pieces] at h
  generalize i.usernameCredential = user at h ⊢
  generalize i.passwordCredential = password at h ⊢
  rcases user with _ | (_ | _) <;> rcases password with _ | (_ | _) <;>
    simp_all [usernamePieces, passwordPieces, Credential.secretId?]

/-- Each secret of an index is among the pieces of its URL. -/
theorem mem_pieces_of_mem_secretIds (u : Url) (h : id ∈ i.secretIds) :
    .secret id ∈ pieces i u := by
  rw [PackageIndex.secretIds] at h
  simp only [pieces]
  generalize i.usernameCredential = user at h ⊢
  generalize i.passwordCredential = password at h ⊢
  rcases user with _ | (_ | _) <;> rcases password with _ | (_ | _) <;>
    simp_all [usernamePieces, passwordPieces, Credential.secretId?]

/-- A printable text stays on one line. -/
theorem isOneLine_of_isPrintable {text : String} (h : Url.IsPrintable text.toList) :
    IsOneLine text := by
  intro hbreak
  cases h '\n' hbreak

/-- A URL that carries credentials is the one that they are put into. -/
theorem eq_some_of_getD_eq_ok {w : Option Url}
    (h : (w.map Except.ok).getD (.error IndexFlaw.noCredentials) = .ok v) : w = some v := by
  cases w with
  | none => cases h
  | some w => rw [Except.ok.inj h]

private theorem printable_putUsername (hu : u.Printable) {credential : Option Credential}
    (h : putUsername u credential = .ok v) : v.Printable := by
  rw [putUsername.eq_def] at h
  split at h
  · exact hu.withUsername? (eq_some_of_getD_eq_ok h)
  · exact Except.ok.inj h ▸ hu

private theorem printable_putPassword (hu : u.Printable) {credential : Option Credential}
    (h : putPassword u credential = .ok v) : v.Printable := by
  rw [putPassword.eq_def] at h
  split at h
  · exact hu.withPassword? (eq_some_of_getD_eq_ok h)
  · exact Except.ok.inj h ▸ hu

private theorem printable_urlOf (h : urlOf i = .ok u) : u.Printable := by
  rw [urlOf] at h
  split at h
  · cases h
  · next parsed hparse =>
    split at h
    · cases h
    · next named hnamed =>
      exact printable_putPassword
        (printable_putUsername (Url.printable_parse hparse) hnamed) h

private theorem isOneLine_of_mem_pieces (hu : u.Printable) {text : String}
    (h : .literal text ∈ pieces i u) : IsOneLine text := by
  have hpassword : Url.IsPrintable (u.password.getD []) := by
    cases hp : u.password with
    | none => exact .nil
    | some password => exact hu.password password hp
  simp only [pieces, List.cons_append, List.mem_cons, List.mem_append, List.not_mem_nil,
    or_false] at h
  rcases h with h | ((h | h) | h) | h
  · rw [Piece.literal.inj h, Text.isOneLine_append]
    exact ⟨isOneLine_of_isPrintable hu.scheme, by decide⟩
  · rw [usernamePieces.eq_def] at h
    split at h
    · cases List.mem_singleton.mp h
    · rw [Piece.literal.inj (List.mem_singleton.mp h)]
      exact isOneLine_of_isPrintable (by simpa using hu.username)
    · cases h
  · rw [passwordPieces.eq_def] at h
    split at h
    · rcases List.mem_cons.mp h with h | h
      · rw [Piece.literal.inj h]
        decide
      · cases List.mem_singleton.mp h
    · rw [Piece.literal.inj (List.mem_singleton.mp h), Text.isOneLine_append]
      exact ⟨by decide, isOneLine_of_isPrintable (by simpa using hpassword)⟩
    · cases h
  · split at h
    · rw [Piece.literal.inj (List.mem_singleton.mp h)]
      decide
    · cases h
  · rw [Piece.literal.inj h]
    exact isOneLine_of_isPrintable (by simpa using hu.fromHost)

/-- The expression that reads a secret is fixed but for the name of the secret. -/
theorem secretExpression_eq (id : String) :
    secretExpression id = "$(tr -d '\\n' < /run/secrets/" ++ id ++ " | jq -sRr @uri)" := rfl

private theorem isOneLine_secretExpression (h : ∀ char ∈ id.toList, isSecretIdChar char = true) :
    IsOneLine (secretExpression id) := by
  have hid : IsOneLine id := Text.isOneLine_of_isBlank fun char hchar ↦
    Config.isBlank_of_isSecretIdChar (h char hchar)
  rw [secretExpression_eq, Text.isOneLine_append, Text.isOneLine_append]
  exact ⟨⟨by decide, hid⟩, by decide⟩

private theorem isOneLine_word (hu : u.Printable)
    (h : ∀ id ∈ i.secretIds, ∀ char ∈ id.toList, isSecretIdChar char = true) :
    IsOneLine (word i u) := by
  have hpiece : ∀ piece ∈ pieces i u, IsOneLine piece.inQuotes ∧ IsOneLine piece.text := by
    intro piece hpiece
    cases piece with
    | literal text =>
      have htext := isOneLine_of_mem_pieces hu hpiece
      exact ⟨(Quote.isOneLine_literal text).mpr htext, htext⟩
    | secret id =>
      have hid := isOneLine_secretExpression (h id (mem_secretIds_of_mem_pieces hpiece))
      exact ⟨hid, hid⟩
  rw [word]
  split
  · rw [Text.isOneLine_append, Text.isOneLine_append, Text.isOneLine_join, List.forall_mem_map]
    exact ⟨⟨by decide, fun piece hp ↦ (hpiece piece hp).1⟩, by decide⟩
  · rw [Quote.isOneLine_shellWord, Text.isOneLine_join, List.forall_mem_map]
    exact fun piece hp ↦ (hpiece piece hp).2

/-- The options for an index stay on one line. -/
theorem isOneLine_render (h : ∀ id ∈ i.secretIds, ∀ char ∈ id.toList, isSecretIdChar char = true)
    {option : String} (hoption : render i = .ok option) : IsOneLine option := by
  rw [render] at hoption
  split at hoption
  · cases hoption
  · next u hurl =>
    have hu := printable_urlOf hurl
    rw [← Except.ok.inj hoption, Text.isOneLine_append, Text.isOneLine_append]
    refine ⟨⟨by decide, isOneLine_word hu h⟩, ?_⟩
    split
    · rw [Text.isOneLine_append, Quote.isOneLine_shellWord]
      exact ⟨by decide, isOneLine_of_isPrintable (by simpa using hu.hostAndPort)⟩
    · decide

end ContainerBuild.IndexOption
