import AnoPki.Foundation.Labels
import AnoPki.Foundation.Text

/-! # Name constraints of an issuer

Before it signs, the core compares the DNS names of a request with the name constraints of the
issuer's certificate. It does so on characters; what a constraint means is said on the labels of a
name. The two agree on every constraint but the empty one, which covers every name and is taken to
cover none. -/
namespace AnoPki.Core

open Foundation List

/-- A string of the core. -/
abbrev Bytes := List UInt8

/-- The character between two labels. -/
def dot : UInt8 := '.'.toUInt8

def tolower (ch : UInt8) : UInt8 := if 'A'.toUInt8 ≤ ch ∧ ch ≤ 'Z'.toUInt8 then ch + 32 else ch

def lowercase (value : Bytes) : Bytes := value.map tolower

def hasSuffix (value suffix : Bytes) : Bool :=
  suffix.length ≤ value.length && value.drop (value.length - suffix.length) == suffix

def dnsMatchesConstraint (dnsName constraint : Bytes) : Bool :=
  if dnsName = [] ∨ constraint = [] then false
  else if constraint.head? = some dot then hasSuffix dnsName constraint
  else dnsName = constraint || hasSuffix dnsName (dot :: constraint)

/-- The base of a subtree. Only the text of a DNS name is read. -/
inductive GeneralName where
  | dnsName (text : Bytes)
  | other
deriving DecidableEq, Repr

/-- A subtree of names; one without a base stands for a null pointer. -/
structure GeneralSubtree where
  base : Option GeneralName
deriving DecidableEq, Repr

structure NameConstraints where
  permittedSubtrees : List GeneralSubtree
  excludedSubtrees : List GeneralSubtree
deriving DecidableEq, Repr

def subtreeMatchesDns (subtree : GeneralSubtree) (dnsName : Bytes) : Bool :=
  match subtree.base with
  | some (.dnsName text) => dnsMatchesConstraint (lowercase dnsName) (lowercase text)
  | _ => false

def hasDnsSubtree (subtrees : List GeneralSubtree) : Bool :=
  subtrees.any fun subtree =>
    match subtree.base with
    | some (.dnsName _) => true
    | _ => false

def dnsPermittedByNameConstraints (dnsName : Bytes) (constraints : NameConstraints) : Bool :=
  if constraints.excludedSubtrees.any (subtreeMatchesDns · dnsName) then false
  else if ¬ hasDnsSubtree constraints.permittedSubtrees then true
  else constraints.permittedSubtrees.any (subtreeMatchesDns · dnsName)

/-- An issuer may have no constraints. -/
def verifyIssuerNameConstraints (constraints : Option NameConstraints) (dnsNames : List Bytes) :
    Except Text Unit :=
  match constraints with
  | none => .ok ()
  | some constraints =>
    if dnsNames.all (dnsPermittedByNameConstraints · constraints) then .ok ()
    else .error "issue.issuer_not_ca"

/-- The labels of a name, without regard to case. -/
def labels (name : Bytes) : List Bytes := (lowercase name).splitOn dot

/-- The names that a base covers: all names if it is empty, the names below it if it begins with a
dot, and otherwise the names that end in its labels. -/
def Covers (base name : Bytes) : Prop :=
  match base with
  | [] => True
  | first :: rest =>
    if first = dot then ∃ front ≠ [], labels name = front ++ labels rest
    else labels (first :: rest) <:+ labels name

/-- The DNS names that are bases of subtrees. -/
def dnsBases (subtrees : List GeneralSubtree) : List Bytes :=
  subtrees.filterMap fun subtree =>
    match subtree.base with
    | some (.dnsName text) => some text
    | _ => none

/-- No excluded base covers the name, and a permitted one does if there is any. -/
structure NameConstraints.Permits (constraints : NameConstraints) (name : Bytes) : Prop where
  excluded : ∀ base ∈ dnsBases constraints.excludedSubtrees, ¬ Covers base name
  permitted : dnsBases constraints.permittedSubtrees ≠ [] →
    ∃ base ∈ dnsBases constraints.permittedSubtrees, Covers base name

section Matching

variable {name base value suffix : Bytes} {subtrees : List GeneralSubtree}

theorem hasSuffix_iff : hasSuffix value suffix ↔ suffix <:+ value := by
  rw [hasSuffix, Bool.and_eq_true, decide_eq_true_iff, beq_iff_eq, List.suffix_iff_eq_drop]
  constructor
  · rintro ⟨-, same⟩
    exact same.symm
  · intro same
    refine ⟨?_, same.symm⟩
    rw [same]
    simp

theorem tolower_eq_dot_iff {ch} : tolower ch = dot ↔ ch = dot := by
  revert ch
  decide +kernel

/-- A base that is not empty covers the names that end in its characters. -/
theorem covers_cons_iff {first rest} : Covers (first :: rest) name ↔
    if first = dot then lowercase (first :: rest) <:+ lowercase name
    else lowercase name = lowercase (first :: rest) ∨
      dot :: lowercase (first :: rest) <:+ lowercase name := by
  rw [Covers]
  by_cases leading : first = dot
  · have whole : lowercase (first :: rest) = dot :: lowercase rest :=
      congrArg (· :: lowercase rest) (tolower_eq_dot_iff.mpr leading)
    rw [if_pos leading, if_pos leading, whole, cons_isSuffix_iff]
    rfl
  · rw [if_neg leading, if_neg leading, ← splitOn_isSuffix_iff]
    rfl

/-- The core's comparison finds what a base covers, unless the base is empty. -/
theorem dnsMatchesConstraint_iff : dnsMatchesConstraint (lowercase name) (lowercase base) ↔
    base ≠ [] ∧ Covers base name := by
  cases base with
  | nil => simp [dnsMatchesConstraint, lowercase]
  | cons first rest =>
    have head : (lowercase (first :: rest)).head? = some dot ↔ first = dot := by
      rw [← tolower_eq_dot_iff, lowercase, map_cons, List.head?_cons, Option.some.injEq]
    have nonempty : lowercase (first :: rest) ≠ [] := by simp [lowercase]
    rw [covers_cons_iff, dnsMatchesConstraint]
    by_cases blank : lowercase name = []
    · simp [blank, nonempty, nonempty.symm]
    · by_cases leading : first = dot
      · rw [if_neg (by simp [blank, nonempty]), if_pos (head.mpr leading), if_pos leading,
          hasSuffix_iff]
        simp
      · simp [blank, nonempty, head, leading, hasSuffix_iff]

theorem any_subtreeMatchesDns_iff : subtrees.any (subtreeMatchesDns · name) ↔
    ∃ base ∈ dnsBases subtrees, base ≠ [] ∧ Covers base name := by
  simp only [any_eq_true, dnsBases, mem_filterMap]
  constructor
  · rintro ⟨subtree, inside, found⟩
    rw [subtreeMatchesDns] at found
    split at found
    · next text same =>
      exact ⟨text, ⟨subtree, inside, by rw [same]⟩, dnsMatchesConstraint_iff.mp found⟩
    · cases found
  · rintro ⟨base, ⟨subtree, inside, same⟩, found⟩
    refine ⟨subtree, inside, ?_⟩
    split at same
    · next text here =>
      cases same
      rw [subtreeMatchesDns, here]
      exact dnsMatchesConstraint_iff.mpr found
    · cases same

theorem hasDnsSubtree_iff : hasDnsSubtree subtrees ↔ dnsBases subtrees ≠ [] := by
  rw [hasDnsSubtree, dnsBases, Ne, filterMap_eq_nil_iff, any_eq_true]
  push Not
  refine exists_congr fun subtree => and_congr_right fun _ => ?_
  split <;> simp

end Matching

/-- The core's comparison goes by the bases that are not empty. -/
theorem dnsPermitted_iff {name constraints} : dnsPermittedByNameConstraints name constraints ↔
    ¬ (∃ base ∈ dnsBases constraints.excludedSubtrees, base ≠ [] ∧ Covers base name) ∧
      (dnsBases constraints.permittedSubtrees ≠ [] →
        ∃ base ∈ dnsBases constraints.permittedSubtrees, base ≠ [] ∧ Covers base name) := by
  rw [dnsPermittedByNameConstraints, ← any_subtreeMatchesDns_iff, ← any_subtreeMatchesDns_iff,
    ← hasDnsSubtree_iff]
  split
  · simp [*]
  · split <;> simp_all

theorem NameConstraints.permits_iff {constraints : NameConstraints} {name} :
    constraints.Permits name ↔
      ¬ (∃ base ∈ dnsBases constraints.excludedSubtrees, Covers base name) ∧
        (dnsBases constraints.permittedSubtrees ≠ [] →
          ∃ base ∈ dnsBases constraints.permittedSubtrees, Covers base name) := by
  constructor
  · rintro ⟨excluded, permitted⟩
    exact ⟨fun ⟨base, inside, covers⟩ => excluded base inside covers, permitted⟩
  · rintro ⟨excluded, permitted⟩
    exact ⟨fun base inside covers => excluded ⟨base, inside, covers⟩, permitted⟩

/-- What an empty base stands for comes about without it: if one is excluded, the other bases refuse
the name, and if one is permitted, the other bases decide in the name's favour or an excluded one
covers it. -/
structure NameConstraints.EmptyBasesIdle (constraints : NameConstraints) (name : Bytes) : Prop where
  excluded : [] ∈ dnsBases constraints.excludedSubtrees →
    (∃ base ∈ dnsBases constraints.excludedSubtrees, base ≠ [] ∧ Covers base name) ∨
      (dnsBases constraints.permittedSubtrees ≠ [] ∧
        ∀ base ∈ dnsBases constraints.permittedSubtrees, base ≠ [] → ¬ Covers base name)
  permitted : [] ∈ dnsBases constraints.permittedSubtrees →
    [] ∉ dnsBases constraints.excludedSubtrees →
    (∃ base ∈ dnsBases constraints.excludedSubtrees, Covers base name) ∨
      ∃ base ∈ dnsBases constraints.permittedSubtrees, base ≠ [] ∧ Covers base name

/-- Some base covers a name if an empty one is there, or another one covers it. -/
theorem exists_covers_iff {bases : List Bytes} {name} : (∃ base ∈ bases, Covers base name) ↔
    [] ∈ bases ∨ ∃ base ∈ bases, base ≠ [] ∧ Covers base name := by
  constructor
  · rintro ⟨base, inside, covers⟩
    by_cases blank : base = []
    · exact .inl (blank ▸ inside)
    · exact .inr ⟨base, inside, blank, covers⟩
  · rintro (inside | ⟨base, inside, -, covers⟩)
    · exact ⟨[], inside, trivial⟩
    · exact ⟨base, inside, covers⟩

/-- When the verdict without the empty bases is the one with them. -/
theorem verdicts_agree_iff {excludes excluded restricts permits permitted}
    (nonempty : permits → restricts) :
    ((¬ excluded ∧ (restricts → permitted)) ↔
      ¬ (excludes ∨ excluded) ∧ (restricts → permits ∨ permitted)) ↔
      (excludes → excluded ∨ (restricts ∧ ¬ permitted)) ∧
      (permits → ¬ excludes → (excludes ∨ excluded) ∨ permitted) := by
  by_cases first : excludes
  · by_cases second : excluded
    · simp [first, second]
    · by_cases third : restricts
      · simp [first, second, third]
      · simp [first, second, third]
  · by_cases second : excluded
    · simp [second]
    · by_cases third : permits
      · simp [first, second, third, nonempty third]
      · simp [first, second, third]

/-- A name passes the core's comparison exactly when the constraints permit it, if and only if the
empty bases among them are of no consequence to it. -/
theorem dnsPermittedByNameConstraints_iff (name : Bytes) (constraints : NameConstraints) :
    (dnsPermittedByNameConstraints name constraints ↔ constraints.Permits name) ↔
      constraints.EmptyBasesIdle name := by
  have idle : constraints.EmptyBasesIdle name ↔ ([] ∈ dnsBases constraints.excludedSubtrees →
        (∃ base ∈ dnsBases constraints.excludedSubtrees, base ≠ [] ∧ Covers base name) ∨
        (dnsBases constraints.permittedSubtrees ≠ [] ∧
          ¬ ∃ base ∈ dnsBases constraints.permittedSubtrees, base ≠ [] ∧ Covers base name)) ∧
      ([] ∈ dnsBases constraints.permittedSubtrees → [] ∉ dnsBases constraints.excludedSubtrees →
        (∃ base ∈ dnsBases constraints.excludedSubtrees, Covers base name) ∨
        ∃ base ∈ dnsBases constraints.permittedSubtrees, base ≠ [] ∧ Covers base name) := by
    constructor <;>
    · rintro ⟨excluded, permitted⟩
      exact ⟨by simpa only [not_exists, not_and] using excluded, permitted⟩
  rw [dnsPermitted_iff, NameConstraints.permits_iff, idle, exists_covers_iff, exists_covers_iff]
  exact verdicts_agree_iff ne_nil_of_mem

/-- Without empty bases the names of a request are accepted exactly when all are permitted. -/
theorem verifyIssuerNameConstraints_ok_iff {constraints dnsNames}
    (filled : [] ∉ dnsBases constraints.excludedSubtrees ++
    dnsBases constraints.permittedSubtrees) :
      verifyIssuerNameConstraints (some constraints) dnsNames = .ok () ↔
      ∀ name ∈ dnsNames, constraints.Permits name := by
  rw [mem_append, not_or] at filled
  have each : ∀ name, dnsPermittedByNameConstraints name constraints ↔
      constraints.Permits name := by
    intro name
    rw [dnsPermitted_iff, NameConstraints.permits_iff, exists_covers_iff, exists_covers_iff,
      or_iff_right filled.1, or_iff_right filled.2]
  simp only [verifyIssuerNameConstraints, all_eq_true, each, ite_eq_left_iff,
    reduceCtorEq, imp_false, not_not]

/-- The constraint that forbids every DNS name. -/
def forbidAll : NameConstraints where
  permittedSubtrees := []
  excludedSubtrees := [⟨some (.dnsName [])⟩]

/-- A name of one label passes it. -/
theorem forbidAll_passes : dnsPermittedByNameConstraints [97] forbidAll ∧
    ¬ forbidAll.Permits [97] := by
  refine ⟨by decide +kernel, ?_⟩
  intro permits
  exact permits.excluded [] (by simp [forbidAll, dnsBases]) trivial

end AnoPki.Core
