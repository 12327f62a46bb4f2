import SourceLint.Proofs.Syntax.Parsed
import SourceLint.Rules.TestCaseAccessibility

/-!
# Which members of test cases are reported

The rule walks over the tree to find the test cases, walks over it again to find the types that are among
them, and hands the members of each to a third visitor.  What the third visitor must not see are the members
of types inside a member: all of these lie inside nodes that it leaves out.

* **`MakesTestCase`**, **`IsMemberOf`**, **`Exposes`** — what the rule looks for, said without the visitors.
* **`exposures`** — the members that should be private, one owner after the other.
* **`trace_memberVisitor_of_plain`** — nothing is reported inside a member.
* **`run_visitor_eq_exposures`** — what is reported in a tree whose nodes stand where they may.
* **`check_reports_exposed_members`** — the rule reports the members that should be private, each once.
-/

namespace SourceLint

open Syntax Syntax.Node

namespace TestCaseAccessibility

/-! ### What the rule looks for -/

/-- The implementation is for a type that is written as a path without a type before it and ends in the
name. -/
def IsFor (header : ImplHeader) (name : String) : Prop :=
  ∃ path, header.selfType = some ⟨false, path⟩ ∧ path.lastName? = some name

/-- A node makes a type with the name a test case: it declares the type and derives one of the traits, or it
implements one of them for the type. -/
inductive MakesTestCase (parents : List String) (n : Node) (name : String) : Prop where
  | derives {parent : String} (declared : n.label = .struct name ∨ n.label = .enum name ∨
      n.label = .union name) (derived : parent ∈ derivedNames n.attributes) (isParent : parent ∈ parents)
  | implements {header : ImplHeader} {negative : Bool} {path : Path} {parent : String}
      (isImpl : n.label = .impl header) (implemented : header.implemented = some (negative, path))
      (named : path.lastName? = some parent) (isParent : parent ∈ parents) (isFor : IsFor header name)

/-- The children of the second node are the members of a type with the name that stand in the first one: the
fields of a struct or a union, or the body of an implementation of no trait. -/
inductive Holds (owner holder : Node) (name : String) : Prop where
  | struct (declared : owner.label = .struct name) (fields : holder.label = .part .fields)
  | union (declared : owner.label = .union name) (fields : holder.label = .part .fields)
  | impl {header : ImplHeader} (isImpl : owner.label = .impl header)
      (inherent : header.implemented = none) (isFor : IsFor header name)
      (items : holder.label = .part .items)

/-- The node is a field, a constant, a type or a function of a type. -/
inductive IsMember (n : Node) (m : Member) : Prop where
  | field (h : n.label = .field m)
  | constant (h : n.label = .implConst m)
  | type (h : n.label = .implType m)
  | function {receiverOnly : Bool} (h : n.label = .implFunction m receiverOnly)

/-- The node is a function that is a test: it is marked as one, or its name begins like that of a test and
it has no parameter but a receiver. -/
def IsTest (n : Node) (m : Member) : Prop :=
  ∃ receiverOnly, n.label = .implFunction m receiverOnly ∧
    (marksTest n.attributes = true ∨ "test".toList <+: m.name.toList ∧ receiverOnly = true)

/-- A member of a type with the name stands at the address. -/
def IsMemberOf (tree : Node) (place : Address) (owner : String) (n : Node) (m : Member) : Prop :=
  ∃ q i j o holder, place = q ++ [i, j] ∧ tree.at? q = some o ∧ o.children[i]? = some holder ∧
    Holds o holder owner ∧ holder.children[j]? = some n ∧ IsMember n m

/-- The name begins with an allowed prefix. -/
def Allows (r : TestCaseAccessibility) (name : String) : Prop :=
  ∃ start ∈ r.allowedPrefixes, start.toList <+: name.toList

/-- A member that should be private. -/
structure Exposure where
  /-- Where the member stands in the tree. -/
  place : Address
  owner : String
  name : String
  /-- Where its visibility is written. -/
  span : Span

/-- The member should be private by the settings of the rule. -/
structure Exposes (r : TestCaseAccessibility) (tree : Node) (e : Exposure) : Prop where
  visible : ∃ n m, IsMemberOf tree e.place e.owner n m ∧ ¬ IsTest n m ∧ m.name = e.name ∧
    m.visibility = some e.span
  ofTestCase : ∃ p n, tree.at? p = some n ∧ MakesTestCase r.parentTypes n e.owner
  ownerChecked : ¬ (r.exemptsPrefixedTypes = true ∧ r.Allows e.owner)
  notCalledByRunner : e.name ∉ lifecycleMembers
  notAllowed : ¬ r.Allows e.name

/-- The report on a member that should be private: it is located at the visibility. -/
def Exposure.violation (r : TestCaseAccessibility) (source : SourceFile) (e : Exposure) : Violation :=
  source.violation identifier r.severity e.span (reason e.name e.owner)

/-! ### The names -/

theorem hasAllowedPrefix_iff {r : TestCaseAccessibility} {name : String} :
    r.hasAllowedPrefix name = true ↔ r.Allows name := by
  simp only [hasAllowedPrefix, Allows, List.any_eq_true, Text.beginsWith, List.isPrefixOf_iff_prefix]

theorem implName?_eq_some {header : ImplHeader} {name : String} :
    implName? header = some name ↔ IsFor header name := by
  rw [implName?, Option.bind_eq_some_iff]
  constructor
  · rintro ⟨⟨qualified, path⟩, hself, hname⟩
    cases qualified with
    | true => cases hname
    | false => exact ⟨path, hself, hname⟩
  · rintro ⟨path, hself, hname⟩
    exact ⟨⟨false, path⟩, hself, hname⟩

theorem derives_iff {parents : List String} {n : Node} :
    (derivedNames n.attributes).any parents.contains = true ↔
      ∃ parent ∈ derivedNames n.attributes, parent ∈ parents := by
  simp only [List.any_eq_true, List.contains_iff_mem]

theorem testCaseOf?_of_declared {parents : List String} {n : Node} {declared : String}
    (h : n.label = .struct declared ∨ n.label = .enum declared ∨ n.label = .union declared) :
    testCaseOf? parents n =
      if (derivedNames n.attributes).any parents.contains then some declared else none := by
  rcases h with h | h | h <;> rw [testCaseOf?, h]

theorem testCaseOf?_of_impl {parents : List String} {n : Node} {header : ImplHeader}
    {negative : Bool} {path : Path} (h : n.label = .impl header)
    (himplemented : header.implemented = some (negative, path)) :
    testCaseOf? parents n =
      if path.lastName?.any parents.contains then implName? header else none := by
  rw [testCaseOf?, h]
  simp only [himplemented]

theorem testCaseOf?_eq_some {parents : List String} {n : Node} {name : String} :
    testCaseOf? parents n = some name ↔ MakesTestCase parents n name := by
  have hdeclared : ∀ declared : String,
      n.label = .struct declared ∨ n.label = .enum declared ∨ n.label = .union declared →
      testCaseOf? parents n = some name → MakesTestCase parents n name := by
    intro declared hlabel h
    rw [testCaseOf?_of_declared hlabel] at h
    split at h
    · rename_i hany
      obtain ⟨parent, hderived, hparent⟩ := derives_iff.1 hany
      cases h
      exact .derives hlabel hderived hparent
    · cases h
  constructor
  · intro h
    cases hlabel : n.label with
    | struct declared => exact hdeclared declared (.inl hlabel) h
    | enum declared => exact hdeclared declared (.inr (.inl hlabel)) h
    | union declared => exact hdeclared declared (.inr (.inr hlabel)) h
    | impl header =>
      cases himplemented : header.implemented with
      | none =>
        rw [testCaseOf?, hlabel] at h
        simp only [himplemented] at h
        cases h
      | some trait =>
        rw [testCaseOf?_of_impl hlabel himplemented] at h
        split at h
        · rename_i hany
          obtain ⟨parent, hnamed, hparent⟩ := (Option.any_eq_true _ _).1 hany
          exact .implements hlabel himplemented hnamed (List.contains_iff_mem.1 hparent)
            (implName?_eq_some.1 h)
        · cases h
    | _ =>
      rw [testCaseOf?, hlabel] at h
      cases h
  · intro h
    cases h with
    | derives hlabel hderived hparent =>
      rw [testCaseOf?_of_declared hlabel, if_pos (derives_iff.2 ⟨_, hderived, hparent⟩)]
    | implements hlabel himplemented hnamed hparent hfor =>
      rw [testCaseOf?_of_impl hlabel himplemented, if_pos, implName?_eq_some]
      · exact hfor
      · exact (Option.any_eq_true _ _).2 ⟨_, hnamed, List.contains_iff_mem.2 hparent⟩

/-- The test cases of a tree are the types that some node in it makes test cases. -/
theorem mem_testCases {r : TestCaseAccessibility} {tree : Node} {name : String} :
    name ∈ r.testCases tree ↔ ∃ p n, tree.at? p = some n ∧ MakesTestCase r.parentTypes n name := by
  rw [testCases, Visitor.run_of_skipped_nil rfl, List.mem_flatMap]
  constructor
  · rintro ⟨p, hp, hname⟩
    obtain ⟨n, hn, _⟩ := mem_hookable.1 hp
    rw [Visitor.answersAt, hn] at hname
    exact ⟨p, n, hn, testCaseOf?_eq_some.1 (Option.mem_toList.1 hname)⟩
  · rintro ⟨p, n, hn, hmakes⟩
    have hkind : n.kind?.isSome = true := by
      cases hmakes with
      | derives hlabel _ _ => rcases hlabel with h | h | h <;> rw [kind?, h] <;> rfl
      | implements hlabel _ _ _ _ => rw [kind?, hlabel]; rfl
    refine ⟨p, mem_hookable.2 ⟨n, hn, hkind⟩, ?_⟩
    rw [Visitor.answersAt, hn]
    exact Option.mem_toList.2 (testCaseOf?_eq_some.2 hmakes)

theorem isChecked_iff {r : TestCaseAccessibility} {cases : List String} {name : String} :
    r.isChecked cases name = true ↔
      name ∈ cases ∧ ¬ (r.exemptsPrefixedTypes = true ∧ r.Allows name) := by
  rw [isChecked, Bool.and_eq_true, List.contains_iff_mem, Bool.not_eq_true', ← hasAllowedPrefix_iff]
  simp

theorem isExempt_iff {r : TestCaseAccessibility} {name : String} :
    r.isExempt name = true ↔ name ∈ lifecycleMembers ∨ r.Allows name := by
  rw [isExempt, Bool.or_eq_true, List.contains_iff_mem, hasAllowedPrefix_iff]

theorem isTest_iff {n : Node} {m : Member} {receiverOnly : Bool}
    (h : n.label = .implFunction m receiverOnly) :
    IsTest n m ↔ (marksTest n.attributes || isTestMethod m.name receiverOnly) = true := by
  rw [Bool.or_eq_true, isTestMethod, Bool.and_eq_true, Text.beginsWith, List.isPrefixOf_iff_prefix]
  constructor
  · rintro ⟨receiverOnly', hlabel, htest⟩
    rw [h] at hlabel
    cases hlabel
    exact htest
  · exact fun htest => ⟨receiverOnly, h, htest⟩

theorem member?_eq_some {n : Node} {m : Member} :
    member? n = some m ↔ IsMember n m ∧ ¬ IsTest n m := by
  -- only a function can be a test
  have hother : (∀ receiverOnly, n.label ≠ .implFunction m receiverOnly) → ¬ IsTest n m :=
    fun h ⟨receiverOnly, hlabel, _⟩ => h receiverOnly hlabel
  constructor
  · intro h
    cases hlabel : n.label with
    | field m' =>
      rw [member?, hlabel] at h
      cases h
      exact ⟨.field hlabel, hother (by simp [hlabel])⟩
    | implConst m' =>
      rw [member?, hlabel] at h
      cases h
      exact ⟨.constant hlabel, hother (by simp [hlabel])⟩
    | implType m' =>
      rw [member?, hlabel] at h
      cases h
      exact ⟨.type hlabel, hother (by simp [hlabel])⟩
    | implFunction m' receiverOnly =>
      rw [member?, hlabel] at h
      dsimp only at h
      split at h
      · cases h
      · rename_i htest
        cases h
        exact ⟨.function hlabel, fun h => htest ((isTest_iff hlabel).1 h)⟩
    | _ =>
      rw [member?, hlabel] at h
      cases h
  · rintro ⟨hmember, htest⟩
    cases hmember with
    | field hlabel => rw [member?, hlabel]
    | constant hlabel => rw [member?, hlabel]
    | type hlabel => rw [member?, hlabel]
    | function hlabel =>
      rw [member?, hlabel]
      exact if_neg fun h => htest ((isTest_iff hlabel).2 h)

theorem exposed?_eq_some {r : TestCaseAccessibility} {n : Node} {name : String} {span : Span} :
    r.exposed? n = some (name, span) ↔
      (∃ m, IsMember n m ∧ ¬ IsTest n m ∧ m.name = name ∧ m.visibility = some span) ∧
        name ∉ lifecycleMembers ∧ ¬ r.Allows name := by
  rw [← not_or, ← isExempt_iff]
  constructor
  · intro h
    simp only [exposed?, bind, Option.bind_eq_some_iff] at h
    obtain ⟨m, hmember, s, hvisible, h⟩ := h
    split at h
    · cases h
    · rename_i hexempt
      cases h
      obtain ⟨hm, htest⟩ := member?_eq_some.1 hmember
      exact ⟨⟨m, hm, htest, rfl, hvisible⟩, hexempt⟩
  · rintro ⟨⟨m, hm, htest, rfl, hvisible⟩, hexempt⟩
    simp only [exposed?, member?_eq_some.2 ⟨hm, htest⟩, hvisible, bind, Option.bind_some]
    exact if_neg hexempt

/-! ### The members of an owner -/

/-- The name of the type whose members a node with the label holds. -/
def ownerName? : Label → Option String
  | .struct name | .union name => some name
  | .impl header => if header.implemented.isSome then none else implName? header
  | _ => none

/-- The children of a node with the second label are members of what has the first one. -/
def holds : Label → Label → Bool
  | .struct _, .part .fields | .union _, .part .fields | .impl _, .part .items => true
  | _, _ => false

theorem holds_iff {owner holder : Node} {name : String} :
    Holds owner holder name ↔
      ownerName? owner.label = some name ∧ holds owner.label holder.label = true := by
  constructor
  · intro h
    cases h with
    | struct declared fields => rw [declared, fields]; exact ⟨rfl, rfl⟩
    | union declared fields => rw [declared, fields]; exact ⟨rfl, rfl⟩
    | impl isImpl inherent isFor items =>
      rw [isImpl, items, ownerName?, inherent]
      exact ⟨implName?_eq_some.2 isFor, rfl⟩
  · rintro ⟨hname, hholds⟩
    unfold holds at hholds
    split at hholds
    · rename_i declared fields
      rw [declared] at hname
      cases hname
      exact .struct declared fields
    · rename_i declared fields
      rw [declared] at hname
      cases hname
      exact .union declared fields
    · rename_i isImpl items
      rw [isImpl, ownerName?] at hname
      split at hname
      · cases hname
      · rename_i himplemented
        exact .impl isImpl (by simpa using himplemented) (implName?_eq_some.1 hname) items
    · cases hholds

/-- The children of the children of a node that are members of its type, with the way to each. -/
def membersAt (n : Node) : List (Address × Node) :=
  n.children.zipIdx.flatMap fun c =>
    if holds n.label c.1.label then c.1.children.zipIdx.map fun m => ([c.2, m.2], m.1) else []

theorem mem_membersAt {n m : Node} {p : Address} :
    (p, m) ∈ membersAt n ↔ ∃ i j holder, p = [i, j] ∧ n.children[i]? = some holder ∧
      holds n.label holder.label = true ∧ holder.children[j]? = some m := by
  rw [membersAt, List.mem_flatMap]
  constructor
  · rintro ⟨⟨holder, i⟩, hc, hm⟩
    split at hm
    · rename_i hholds
      obtain ⟨⟨m', j⟩, hj, heq⟩ := List.mem_map.1 hm
      cases heq
      exact ⟨i, j, holder, rfl, List.mem_zipIdx_iff_getElem?.1 hc, hholds,
        List.mem_zipIdx_iff_getElem?.1 hj⟩
    · cases hm
  · rintro ⟨i, j, holder, rfl, hi, hholds, hj⟩
    refine ⟨(holder, i), List.mem_zipIdx_iff_getElem?.2 hi, ?_⟩
    rw [if_pos hholds, List.mem_map]
    exact ⟨(m, j), List.mem_zipIdx_iff_getElem?.2 hj, rfl⟩

/-- The exposure of a member at the end of a way from its owner. -/
def exposure? (r : TestCaseAccessibility) (owner : String) (q : Address) (m : Address × Node) :
    Option Exposure :=
  (r.exposed? m.2).map fun e => ⟨q ++ m.1, owner, e.1, e.2⟩

/-- The members that should be private of the owner at an address. -/
def exposuresAt (r : TestCaseAccessibility) (cases : List String) (tree : Node) (q : Address) :
    List Exposure :=
  (tree.at? q).elim [] fun n =>
    match ownerName? n.label with
    | some owner =>
      if r.isChecked cases owner then (membersAt n).filterMap (r.exposure? owner q) else []
    | none => []

/-- The members that should be private, one owner after the other. -/
def exposures (r : TestCaseAccessibility) (tree : Node) : List Exposure :=
  tree.hookable.flatMap (r.exposuresAt (r.testCases tree) tree)

theorem mem_exposuresAt {r : TestCaseAccessibility} {cases : List String} {tree : Node}
    {q : Address} {e : Exposure} :
    e ∈ r.exposuresAt cases tree q ↔ ∃ n, tree.at? q = some n ∧ ownerName? n.label = some e.owner ∧
      r.isChecked cases e.owner = true ∧
      ∃ m ∈ membersAt n, e.place = q ++ m.1 ∧ r.exposed? m.2 = some (e.name, e.span) := by
  rw [exposuresAt]
  constructor
  · intro h
    cases hat : tree.at? q with
    | none =>
      rw [hat] at h
      cases h
    | some n =>
      rw [hat, Option.elim_some] at h
      split at h
      · rename_i owner howner
        split at h
        · rename_i hchecked
          obtain ⟨m, hm, hexposure⟩ := List.mem_filterMap.1 h
          obtain ⟨⟨name, span⟩, hexposed, heq⟩ := Option.map_eq_some_iff.1 hexposure
          cases heq
          exact ⟨n, rfl, howner, hchecked, m, hm, rfl, hexposed⟩
        · cases h
      · cases h
  · rintro ⟨n, hat, howner, hchecked, m, hm, hplace, hexposed⟩
    rw [hat, Option.elim_some, howner]
    simp only [if_pos hchecked]
    refine List.mem_filterMap.2 ⟨m, hm, ?_⟩
    rw [exposure?, hexposed, Option.map_some, ← hplace]

/-- The exposures of a tree are the members that should be private. -/
theorem mem_exposures {r : TestCaseAccessibility} {tree : Node} {e : Exposure} :
    e ∈ r.exposures tree ↔ r.Exposes tree e := by
  rw [exposures, List.mem_flatMap]
  constructor
  · rintro ⟨q, _, he⟩
    obtain ⟨n, hat, howner, hchecked, ⟨p, m⟩, hm, hplace, hexposed⟩ := mem_exposuresAt.1 he
    obtain ⟨i, j, holder, rfl, hi, hholds, hj⟩ := mem_membersAt.1 hm
    obtain ⟨hcase, hexempt⟩ := isChecked_iff.1 hchecked
    obtain ⟨⟨member, hmember, htest, hname, hvisible⟩, hlifecycle, hallowed⟩ :=
      exposed?_eq_some.1 hexposed
    have hheld : Holds n holder e.owner := holds_iff.2 ⟨howner, hholds⟩
    exact {
      visible := ⟨m, member, ⟨q, i, j, n, holder, hplace, hat, hi, hheld, hj, hmember⟩, htest, hname,
        hvisible⟩
      ofTestCase := mem_testCases.1 hcase
      ownerChecked := hexempt
      notCalledByRunner := hlifecycle
      notAllowed := hallowed }
  · intro h
    obtain ⟨m, member, ⟨q, i, j, n, holder, hplace, hat, hi, hheld, hj, hmember⟩, htest, hname,
      hvisible⟩ := h.visible
    obtain ⟨howner, hholds⟩ := holds_iff.1 hheld
    have hkind : n.kind?.isSome = true := by
      cases hheld with
      | struct declared _ => rw [kind?, declared]; rfl
      | union declared _ => rw [kind?, declared]; rfl
      | impl isImpl _ _ _ => rw [kind?, isImpl]; rfl
    refine ⟨q, mem_hookable.2 ⟨n, hat, hkind⟩, mem_exposuresAt.2 ⟨n, hat, howner, ?_, ([i, j], m), ?_⟩⟩
    · exact isChecked_iff.2 ⟨mem_testCases.2 h.ofTestCase, h.ownerChecked⟩
    · refine ⟨mem_membersAt.2 ⟨i, j, holder, rfl, hi, hholds, hj⟩, hplace, exposed?_eq_some.2 ?_⟩
      exact ⟨⟨member, hmember, htest, hname, hvisible⟩, h.notCalledByRunner, h.notAllowed⟩

/-! ### Every member once -/

theorem pairwise_ne_membersAt (n : Node) : (membersAt n).Pairwise fun a b => a.1 ≠ b.1 := by
  have hindex : ∀ cs : List Node, cs.zipIdx.Pairwise fun a b => a.2 ≠ b.2 := by
    intro cs
    rw [← List.pairwise_map (f := Prod.snd) (R := (· ≠ ·)), List.zipIdx_map_snd]
    exact List.nodup_range'
  rw [membersAt, List.pairwise_flatMap]
  constructor
  · rintro ⟨holder, i⟩ _
    dsimp only
    split
    · rw [List.pairwise_map]
      exact (hindex holder.children).imp fun h => by simpa using h
    · exact List.Pairwise.nil
  · refine (hindex n.children).imp fun {a b} hab x hx y hy hxy => ?_
    obtain ⟨p, m⟩ := x
    obtain ⟨p', m'⟩ := y
    cases hxy
    split at hx
    · split at hy
      · obtain ⟨x, _, hx⟩ := List.mem_map.1 hx
        obtain ⟨y, _, hy⟩ := List.mem_map.1 hy
        have hways : [a.2, x.2] = [b.2, y.2] :=
          (Prod.mk.inj hx).1.trans (Prod.mk.inj hy).1.symm
        exact hab (List.cons.inj hways).1
      · cases hy
    · cases hx

/-- No two exposures are at one address: the way from an owner to its member has two steps. -/
theorem nodup_exposures (r : TestCaseAccessibility) (tree : Node) :
    ((r.exposures tree).map (·.place)).Nodup := by
  have hlength : ∀ {n : Node} {m : Address × Node}, m ∈ membersAt n → m.1.length = 2 := by
    intro n m hm
    obtain ⟨i, j, holder, hp, _⟩ := mem_membersAt.1 hm
    rw [hp]
    rfl
  rw [List.Nodup, List.pairwise_map, exposures, List.pairwise_flatMap]
  constructor
  · intro q _
    rw [exposuresAt]
    cases tree.at? q with
    | none => exact List.Pairwise.nil
    | some n =>
      rw [Option.elim_some]
      split
      · split
        · rw [List.pairwise_filterMap]
          refine (pairwise_ne_membersAt n).imp fun {a b} hab e he e' he' heq => hab ?_
          obtain ⟨_, _, rfl⟩ := Option.map_eq_some_iff.1 he
          obtain ⟨_, _, rfl⟩ := Option.map_eq_some_iff.1 he'
          exact List.append_cancel_left heq
        · exact List.Pairwise.nil
      · exact List.Pairwise.nil
  · refine tree.nodup_hookable.imp fun {q q'} hne e he e' he' heq => hne ?_
    obtain ⟨_, _, _, _, m, hm, hplace, _⟩ := mem_exposuresAt.1 he
    obtain ⟨_, _, _, _, m', hm', hplace', _⟩ := mem_exposuresAt.1 he'
    rw [hplace, hplace'] at heq
    exact (List.append_inj' heq ((hlength hm).trans (hlength hm').symm)).1

/-! ### What is reported -/

section Reports

variable (r : TestCaseAccessibility) (source : SourceFile) (owner : String)

/-- Nothing is reported at a plain node: it is no member. -/
theorem leave_memberVisitor_of_plain {n : Node} (h : n.Plain) :
    (r.memberVisitor source owner).leave n = [] := by
  obtain ⟨l, s, cs⟩ := n
  obtain ⟨τs, hτs, _⟩ := fits_iff.1 h
  have hparts : l.plainParts? = some τs := hτs
  cases l with
  | field m => cases hparts
  | implFunction m receiverOnly => cases hparts
  | implConst m => cases hparts
  | implType m => cases hparts
  | _ => rfl

/-- Where nothing is left out inside a plain node, its children are plain or hold items. -/
theorem parts_of_not_skips {n : Node} (h : n.Plain)
    (hskips : (r.memberVisitor source owner).skips n = false) :
    ∀ c ∈ n.children, c.Plain ∨ c.fits .itemList = true := by
  obtain ⟨l, s, cs⟩ := n
  obtain ⟨τs, hτs, hcs, -⟩ := fits_iff.1 h
  have hallowed : ∀ τ ∈ τs, τ = .plain ∨ τ = .itemList := by
    have hparts : l.plainParts? = some τs := hτs
    unfold Label.plainParts? at hparts
    split at hparts <;> cases hparts
    case h_1 | h_2 | h_3 | h_4 => cases hskips
    all_goals simp
  intro c hc
  obtain ⟨τ, hτ, hfits⟩ := hcs c hc
  rcases hallowed τ hτ with rfl | rfl
  · exact .inl hfits
  · exact .inr hfits

/-- **Nothing is reported inside a member.**  A plain node is left out with everything inside it, or there
is no member at it and the same holds of what is inside it. -/
theorem trace_memberVisitor_of_plain {n : Node} (h : n.Plain ∨ n.fits .itemList = true) :
    (if (r.memberVisitor source owner).skips n then [] else
      (r.memberVisitor source owner).trace n) = [] := by
  induction n using induct with
  | mk l s cs ih =>
    cases hskips : (r.memberVisitor source owner).skips (.mk l s cs) with
    | true => rfl
    | false =>
      have hinside : ∀ c ∈ cs, c.Plain ∨ c.fits .itemList = true := by
        rcases h with h | h
        · exact parts_of_not_skips r source owner h hskips
        · intro c hc
          exact .inl (fits_of_mem_children h (fun τs hτs => (parts?_itemList hτs).2) hc)
      have hleave : (if l.kind?.isSome then (r.memberVisitor source owner).leave (.mk l s cs)
          else []) = [] := by
        split
        · rename_i hkind
          rcases h with h | h
          · exact leave_memberVisitor_of_plain r source owner h
          · obtain ⟨τs, hτs⟩ := parts?_isSome_of_fits h
            have hl : l = .part .items := (parts?_itemList hτs).1
            rw [hl] at hkind
            cases hkind
        · rfl
      rw [if_neg Bool.false_ne_true, Visitor.trace_mk, hleave, List.append_nil]
      exact List.flatMap_eq_nil_iff.2 fun c hc => ih c hc (hinside c hc)

/-- A member itself is all that is reported of a member. -/
theorem trace_memberVisitor_of_member {n : Node}
    (h : n.fits .field = true ∨ n.fits .member = true) :
    (r.memberVisitor source owner).trace n = (r.memberVisitor source owner).leave n := by
  obtain ⟨l, s, cs⟩ := n
  have hplain : ∀ c ∈ cs, c.Plain := by
    intro c hc
    rcases h with h | h
    · exact fits_of_mem_children h (fun τs hτs => (parts?_field hτs).2) hc
    · exact fits_of_mem_children h (fun τs hτs => (parts?_member hτs).2) hc
  have hinside : (cs.flatMap fun c => if (r.memberVisitor source owner).skips c then [] else
      (r.memberVisitor source owner).trace c) = [] :=
    List.flatMap_eq_nil_iff.2 fun c hc =>
      trace_memberVisitor_of_plain r source owner (.inl (hplain c hc))
  rw [Visitor.trace_mk, hinside, List.nil_append]
  split
  · rfl
  · rename_i hkind
    -- of the members of an implementation one has no kind: an item of which no parts are kept
    obtain ⟨τs, hτs⟩ | ⟨τs, hτs⟩ := h.imp parts?_isSome_of_fits parts?_isSome_of_fits
    · obtain ⟨⟨m, hl⟩, -⟩ := parts?_field hτs
      change l = _ at hl
      subst hl
      exact absurd rfl hkind
    · obtain ⟨⟨m, b, hl⟩ | ⟨m, hl⟩ | ⟨m, hl⟩ | hl, -⟩ := parts?_member hτs <;> change l = _ at hl <;>
        subst hl
      case inr.inr.inr => rfl
      all_goals exact absurd rfl hkind

/-- The members in a list of fields are reported one after the other. -/
theorem delegate_memberVisitor_of_fieldList {n : Node} (h : n.fits .fieldList = true) :
    (r.memberVisitor source owner).delegate n =
      n.children.flatMap (r.memberVisitor source owner).leave := by
  obtain ⟨l, s, cs⟩ := n
  obtain ⟨τs, hτs⟩ := parts?_isSome_of_fits h
  have hl : l = .part .fields := (parts?_fieldList hτs).1
  subst hl
  rw [Visitor.delegate_eq_trace, Visitor.trace_mk]
  change _ ++ [] = cs.flatMap _
  rw [List.append_nil]
  refine List.flatMap_congr fun c hc => ?_
  have hfield : c.fits .field = true :=
    fits_of_mem_children h (fun τs hτs => (parts?_fieldList hτs).2) hc
  have hskips : (r.memberVisitor source owner).skips c = false := by
    obtain ⟨τs, hτs⟩ := parts?_isSome_of_fits hfield
    obtain ⟨⟨m, hl⟩, -⟩ := parts?_field hτs
    rw [Visitor.skips, kind?, hl]
    rfl
  rw [hskips, if_neg Bool.false_ne_true]
  exact trace_memberVisitor_of_member r source owner (.inl hfield)

/-- A member that is handed on by itself is all that is reported. -/
theorem delegate_memberVisitor_of_member {n : Node}
    (h : n.fits .field = true ∨ n.fits .member = true) :
    (r.memberVisitor source owner).delegate n = (r.memberVisitor source owner).leave n := by
  rw [Visitor.delegate_eq_trace, trace_memberVisitor_of_member r source owner h]

end Reports

/-! ### What is handed on -/

/-- What holds members in a tree has the shape of a place for them. -/
theorem fits_holder {σ : Shape} {n holder : Node} (h : n.fits σ = true) (hc : holder ∈ n.children)
    (hholds : holds n.label holder.label = true) :
    (holder.label = .part .fields ∧ holder.fits .fieldList = true) ∨
      (holder.label = .part .items ∧ holder.fits .memberList = true) := by
  obtain ⟨l, s, cs⟩ := n
  obtain ⟨τs, hτs, hcs, -⟩ := fits_iff.1 h
  obtain ⟨τ, hτ, hfits⟩ := hcs holder hc
  -- no plain node is a list of fields or a body
  have hplain : τ = .plain → ∀ part, holder.label = .part part →
      (Label.part part).plainParts? ≠ none := by
    rintro rfl part hlabel hnone
    obtain ⟨τs', hτs'⟩ := parts?_isSome_of_fits hfits
    rw [hlabel] at hτs'
    cases hnone.symm.trans hτs'
  change holds l holder.label = true at hholds
  unfold holds at hholds
  split at hholds
  case h_4 => cases hholds
  all_goals
    rename_i hlabel
    cases σ <;> cases hτs
    rcases List.mem_pair.1 hτ with rfl | rfl
    · exact absurd rfl (hplain rfl _ hlabel)
  · exact .inl ⟨hlabel, hfits⟩
  · exact .inl ⟨hlabel, hfits⟩
  · exact .inr ⟨hlabel, hfits⟩

theorem flatMap_membersAt {α : Type} (n : Node) (f : Node → List α) :
    (membersAt n).flatMap (fun m => f m.2) =
      n.children.flatMap fun c => if holds n.label c.label then c.children.flatMap f else [] := by
  have hchildren : ∀ (cs : List Node) (g : Node → List α),
      (cs.zipIdx.flatMap fun c => g c.1) = cs.flatMap g := by
    intro cs g
    rw [← List.flatMap_map, List.zipIdx_map_fst]
  rw [membersAt, List.flatMap_assoc, ← hchildren n.children]
  refine List.flatMap_congr fun c _ => ?_
  split
  · rw [List.flatMap_map]
    exact hchildren c.1.children f
  · rfl

theorem flatMap_filter_eq {α : Type} (cs : List Node) (p : Node → Bool) (f : Node → List α) :
    (cs.filter p).flatMap f = cs.flatMap fun c => if p c then f c else [] := by
  induction cs with
  | nil => rfl
  | cons c cs ih =>
    rw [List.flatMap_cons, ← ih, List.filter_cons]
    split <;> simp

/-- What is reported when the holders of members are taken one by one, however each hands on its members. -/
theorem flatMap_holders_eq {α : Type} {σ : Shape} {n : Node} (h : n.fits σ = true)
    {p : Node → Bool} (hp : ∀ c, p c = holds n.label c.label) {f g : Node → List α}
    (hfg : ∀ c, holds n.label c.label = true → (c.label = .part .fields ∧ c.fits .fieldList = true) ∨
      (c.label = .part .items ∧ c.fits .memberList = true) → f c = c.children.flatMap g) :
    (n.children.filter p).flatMap f = (membersAt n).flatMap fun m => g m.2 := by
  rw [flatMap_filter_eq, flatMap_membersAt]
  refine List.flatMap_congr fun c hc => ?_
  rw [hp]
  split
  · rename_i hholds
    exact hfg c hholds (fits_holder h hc hholds)
  · rfl

/-- Each member that is handed on by itself is reported by itself. -/
theorem flatMap_delegate_children (r : TestCaseAccessibility) (source : SourceFile) (owner : String)
    {c : Node} (h : (c.label = .part .fields ∧ c.fits .fieldList = true) ∨
      (c.label = .part .items ∧ c.fits .memberList = true)) :
    c.children.flatMap (r.memberVisitor source owner).delegate =
      c.children.flatMap (r.memberVisitor source owner).leave := by
  refine List.flatMap_congr fun m hm => delegate_memberVisitor_of_member r source owner ?_
  rcases h with ⟨-, h⟩ | ⟨-, h⟩
  · exact .inl (fits_of_mem_children h (fun τs hτs => (parts?_fieldList hτs).2) hm)
  · exact .inr (fits_of_mem_children h (fun τs hτs => (parts?_memberList hτs).2) hm)

section Owners

variable (r : TestCaseAccessibility) (source : SourceFile) {σ : Shape} {n : Node} (h : n.fits σ = true)

include h

/-- The members of a struct are handed on with the list that they stand in. -/
theorem flatMap_delegate_struct {name : String} (hlabel : n.label = .struct name) :
    n.fieldLists.flatMap (r.memberVisitor source name).delegate =
      (membersAt n).flatMap fun m => (r.memberVisitor source name).leave m.2 := by
  refine flatMap_holders_eq h (fun c => ?_) fun c hholds hc => ?_
  · rw [hlabel]
    cases c.label with
    | part part => cases part <;> rfl
    | _ => rfl
  · rcases hc with ⟨-, hfields⟩ | ⟨hitems, -⟩
    · exact delegate_memberVisitor_of_fieldList r source name hfields
    · rw [hlabel, hitems] at hholds
      cases hholds

/-- The members of a union are handed on one by one. -/
theorem flatMap_delegate_union {name : String} (hlabel : n.label = .union name) :
    (n.fieldLists.flatMap children).flatMap (r.memberVisitor source name).delegate =
      (membersAt n).flatMap fun m => (r.memberVisitor source name).leave m.2 := by
  rw [List.flatMap_assoc]
  refine flatMap_holders_eq h (fun c => ?_) fun c _ hc => flatMap_delegate_children r source name hc
  rw [hlabel]
  cases c.label with
  | part part => cases part <;> rfl
  | _ => rfl

/-- So are those of an implementation. -/
theorem flatMap_delegate_impl {header : ImplHeader} (hlabel : n.label = .impl header)
    (owner : String) :
    n.bodyItems.flatMap (r.memberVisitor source owner).delegate =
      (membersAt n).flatMap fun m => (r.memberVisitor source owner).leave m.2 := by
  rw [bodyItems, grandchildrenWith, List.flatMap_assoc]
  refine flatMap_holders_eq h (fun c => ?_) fun c _ hc => flatMap_delegate_children r source owner hc
  rw [hlabel]
  cases c.label with
  | part part => cases part <;> rfl
  | _ => rfl

end Owners

/-- What is reported at a node: at an owner whose members are looked at, each of them by itself. -/
def reportsAt (r : TestCaseAccessibility) (source : SourceFile) (cases : List String) (n : Node) :
    List Violation :=
  match ownerName? n.label with
  | some owner =>
    if r.isChecked cases owner then
      (membersAt n).flatMap fun m => (r.memberVisitor source owner).leave m.2
    else []
  | none => []

theorem leave_visitor_of_memberNodes {r : TestCaseAccessibility} {source : SourceFile}
    (cases : List String) {n : Node} {owner : String} {nodes : List Node}
    (hnodes : memberNodes n = some (owner, nodes)) (howner : ownerName? n.label = some owner)
    (hreports : nodes.flatMap (r.memberVisitor source owner).delegate =
      (membersAt n).flatMap fun m => (r.memberVisitor source owner).leave m.2) :
    (r.visitor source cases).leave n = r.reportsAt source cases n := by
  rw [reportsAt, howner, visitor]
  simp only [hnodes, hreports]

/-- At an owner its members are reported, and at any other node nothing is. -/
theorem leave_visitor (r : TestCaseAccessibility) (source : SourceFile) (cases : List String)
    {σ : Shape} {n : Node} (h : n.fits σ = true) :
    (r.visitor source cases).leave n = r.reportsAt source cases n := by
  cases hlabel : n.label with
  | struct name =>
    exact leave_visitor_of_memberNodes cases (by rw [memberNodes, hlabel]) (by rw [hlabel]; rfl)
      (flatMap_delegate_struct r source h hlabel)
  | union name =>
    exact leave_visitor_of_memberNodes cases (by rw [memberNodes, hlabel]) (by rw [hlabel]; rfl)
      (flatMap_delegate_union r source h hlabel)
  | impl header =>
    cases himplemented : header.implemented with
    | some trait => simp [visitor, memberNodes, reportsAt, hlabel, ownerName?, himplemented]
    | none =>
      cases hname : implName? header with
      | none => simp [visitor, memberNodes, reportsAt, hlabel, ownerName?, himplemented, hname]
      | some name =>
        refine leave_visitor_of_memberNodes cases ?_ ?_ (flatMap_delegate_impl r source h hlabel name)
        · simp [memberNodes, hlabel, himplemented, hname]
        · simp [hlabel, ownerName?, himplemented, hname]
  | _ => simp only [visitor, memberNodes, reportsAt, hlabel, ownerName?]

/-- What the rule reports in a tree whose nodes stand where they may. -/
theorem run_visitor_eq_exposures (r : TestCaseAccessibility) (source : SourceFile) {tree : Node}
    (h : tree.Plain) :
    (r.visitor source (r.testCases tree)).run tree =
      (r.exposures tree).map (Exposure.violation r source) := by
  rw [Visitor.run_of_skipped_nil rfl, exposures, List.map_flatMap]
  refine List.flatMap_congr fun q hq => ?_
  obtain ⟨n, hat, _⟩ := mem_hookable.1 hq
  obtain ⟨τ, hfits⟩ := exists_fits_of_at? h hat
  rw [Visitor.answersAt, exposuresAt, hat, Option.elim_some, Option.elim_some,
    leave_visitor r source _ hfits, reportsAt]
  cases ownerName? n.label with
  | none => rfl
  | some owner =>
    dsimp only
    split
    · rw [List.map_filterMap, List.filterMap_eq_flatMap_toList]
      refine List.flatMap_congr fun m _ => ?_
      simp only [exposure?, memberVisitor]
      cases r.exposed? m.2 <;> rfl
    · rfl

/-- **The rule reports exactly the members that should be private, each of them once**: its report on a
source is a list of them in which no address occurs twice, and each is reported at its visibility. -/
theorem check_reports_exposed_members (r : TestCaseAccessibility) (source : SourceFile) :
    ∃ es : List Exposure, (es.map (·.place)).Nodup ∧
      (∀ e, e ∈ es ↔ r.Exposes source.tree e) ∧
      r.rule.check source = es.map (Exposure.violation r source) :=
  ⟨r.exposures source.tree, r.nodup_exposures source.tree, fun _ => mem_exposures,
    run_visitor_eq_exposures r source (plain_of_parseProgram source.parsed)⟩

end TestCaseAccessibility

end SourceLint
