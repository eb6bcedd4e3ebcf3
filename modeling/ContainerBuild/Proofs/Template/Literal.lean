import ContainerBuild.Template.Expand

/-!
# Templates without references

Without dollars and backslashes, a template stands for itself, whatever the parameters are.
-/

namespace ContainerBuild.Template

/-- Whether a template has neither a dollar nor a backslash. -/
def isLiteral (template : List Char) : Bool := template.all fun c ↦ c ≠ '$' && c ≠ '\\'

private theorem tokens_of_literal {s : List Char} (h : isLiteral s = true) (position : Nat) :
    tokens position s = .ok (s.map .literal) := by
  have hplain : ∀ c ∈ s, isMarker c = false := by
    simpa [isLiteral, isMarker] using h
  have hread := tokens_append hplain position []
  rwa [List.append_nil, tokens_nil, Except.map, List.append_nil] at hread

/-- A template without dollars and backslashes is written as it is. -/
theorem expand_of_literal {template : String} (h : isLiteral template.toList = true)
    (params : Dict String) : expand template params = .ok template := by
  have hfill : (template.toList.map Token.literal).flatMap (Token.fill params) =
      template.toList := by
    rw [List.flatMap_map]
    exact List.flatMap_singleton' _
  rw [expand_eq, tokens_of_literal h, Except.map, hfill, String.ofList_toList]

end ContainerBuild.Template
