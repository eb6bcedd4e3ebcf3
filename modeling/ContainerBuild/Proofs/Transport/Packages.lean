import ContainerBuild.Proofs.List.FirstOccurrences
import ContainerBuild.Proofs.PackageIndex.Credentials
import ContainerBuild.Transport

/-!
# Transports and their packages

A list that is extended for a transport has the packages of the list and those of the transport,
and nothing twice. What the list has stays in front: behind its first occurrences stand the
packages of the transport that it lacks, in their own order. A scan finds repositories wherever it
finds a secure shell, and secrets exactly where a field of an index names one.
-/

namespace ContainerBuild

namespace Transport

variable {p : String} {t : Transport}

/-- The packages of a transport, way by way. -/
theorem mem_packages :
    p ∈ t.packages ↔ (t.ssh = true ∧ p = "openssh-client") ∨ (t.git = true ∧ p = "git") ∨
      (t.secrets = true ∧ p = "jq") := by
  simp only [packages, List.mem_append, or_assoc]
  have way (b : Bool) (name : String) :
      p ∈ (if b = true then [name] else []) ↔ b = true ∧ p = name := by
    cases b <;> simp
  rw [way, way, way]

/-- An extended list has the packages of the list and those of the transport. -/
theorem mem_extend {base : List String} : p ∈ extend base t ↔ p ∈ base ∨ p ∈ t.packages := by
  rw [extend, List.mem_eraseDups, List.mem_append]

/-- An extended list has nothing twice. -/
theorem nodup_extend (base : List String) (t : Transport) : (extend base t).Nodup :=
  nodup_eraseDups _

/-! ## Extending a list -/

/-- The ways of two transports together. -/
def union (t u : Transport) : Transport :=
  ⟨t.ssh || u.ssh, t.git || u.git, t.secrets || u.secrets⟩

/-- The packages of a transport are some of the three that there are, in their order. -/
theorem packages_sublist (t : Transport) :
    t.packages.Sublist ["openssh-client", "git", "jq"] := by
  obtain ⟨ssh, git, secrets⟩ := t
  cases ssh <;> cases git <;> cases secrets <;> decide

/-- No package is named twice. -/
theorem nodup_packages (t : Transport) : t.packages.Nodup :=
  List.Nodup.sublist t.packages_sublist (by decide)

/-- Two transports together need what either of them needs. -/
theorem mem_packages_union {u : Transport} :
    p ∈ (t.union u).packages ↔ p ∈ t.packages ∨ p ∈ u.packages := by
  simp only [mem_packages, union, Bool.or_eq_true, or_and_right]
  tauto

/-- Behind the first occurrences of a list stand the packages of the transport that it lacks. -/
theorem extend_eq_append (base : List String) (t : Transport) :
    extend base t = base.eraseDups ++ t.packages.removeAll base := by
  have hlacking : (t.packages.removeAll base).Nodup := (nodup_packages t).filter _
  rw [extend, List.eraseDups_append, eraseDups_eq_self hlacking]

/-- A list that has the packages of a transport and nothing twice is not changed for it. -/
theorem extend_eq_self {l : List String} (hnodup : l.Nodup) (hmem : ∀ p ∈ t.packages, p ∈ l) :
    extend l t = l := by
  have hnone : t.packages.removeAll l = [] := by
    rw [List.removeAll, List.filter_eq_nil_iff]
    intro p hp
    simpa using hmem p hp
  rw [extend_eq_append, eraseDups_eq_self hnodup, hnone, List.append_nil]

/-- An extended list has nothing twice. It begins with the items of the list in the order of their
first places, and behind them stand exactly the packages that the ways of the transport need and
the list lacks, in their order. A second time changes nothing, and one transport after another
adds the same packages as both together. -/
theorem exists_extend_eq_append (base : List String) (t : Transport) :
    (extend base t).Nodup ∧
      (∃ kept added, extend base t = kept ++ added ∧ IsFirstOccurrences base kept ∧
        added.Sublist ["openssh-client", "git", "jq"] ∧
        ∀ p, p ∈ added ↔ p ∉ base ∧ ((t.ssh = true ∧ p = "openssh-client") ∨
          (t.git = true ∧ p = "git") ∨ (t.secrets = true ∧ p = "jq"))) ∧
      extend (extend base t) t = extend base t ∧
      ∀ u p, p ∈ extend (extend base t) u ↔ p ∈ extend base (t.union u) := by
  refine ⟨nodup_extend base t, ?_, ?_, fun u p ↦ ?_⟩
  · refine ⟨base.eraseDups, t.packages.removeAll base, extend_eq_append base t,
      isFirstOccurrences_eraseDups base, List.filter_sublist.trans t.packages_sublist,
      fun p ↦ ?_⟩
    rw [List.removeAll, List.mem_filter, mem_packages, and_comm]
    simp
  · exact extend_eq_self (nodup_extend base t) fun p hp ↦ mem_extend.mpr (.inr hp)
  · rw [mem_extend, mem_extend, mem_extend, mem_packages_union, or_assoc]

/-! ## Scanning -/

/-- Where a scan finds a secure shell, it finds a repository. -/
theorem git_of_ssh_scan {dependencies : List String} {indices : List PackageIndex}
    (h : (scan dependencies indices).ssh = true) : (scan dependencies indices).git = true := by
  simp only [scan] at h ⊢
  rw [h, Bool.true_or]

/-- A scan finds secrets exactly when a field of an index names one. -/
theorem secrets_scan_iff {dependencies : List String} {indices : List PackageIndex} :
    (scan dependencies indices).secrets = true ↔ ∃ i ∈ indices, ∃ id, i.Names id := by
  simp only [scan, List.any_eq_true, PackageIndex.usesSecrets_iff]

end Transport

end ContainerBuild
