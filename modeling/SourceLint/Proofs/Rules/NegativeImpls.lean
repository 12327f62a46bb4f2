import SourceLint.Proofs.Rules.Privacy

/-!
# Negative implementations and test cases

An implementation may say of a type that it does not have a trait.  The rule looks at the name of the trait
alone, so such a negative implementation makes the type a test case just as any other one would.

* **`Derives`**, **`Implements`** — the two ways to become a test case, the second with its sign.
* **`makesTestCase_iff`** — there is no third way, and the sign makes no difference.
* **`IsMemberOf.owner_unique`** — a member belongs to one type.
* **`reports_by_negative_impls`** — what is reported of a type that at most negative implementations make
  a test case.
* **`reports_under_negative_impl`** — a file in which one does.
-/

namespace SourceLint

open Syntax Syntax.Node

namespace TestCaseAccessibility

/-! ### Becoming a test case -/

/-- The node declares a type with the name, and the type derives one of the traits. -/
def Derives (parents : List String) (n : Node) (name : String) : Prop :=
  (n.label = .struct name ∨ n.label = .enum name ∨ n.label = .union name) ∧
    ∃ parent ∈ derivedNames n.attributes, parent ∈ parents

/-- The node implements one of the traits for the type, or says that the type does not have it. -/
def Implements (parents : List String) (negative : Bool) (n : Node) (name : String) : Prop :=
  ∃ header path parent, n.label = .impl header ∧ header.implemented = some (negative, path) ∧
    path.lastName? = some parent ∧ parent ∈ parents ∧ IsFor header name

theorem makesTestCase_iff {parents : List String} {n : Node} {name : String} :
    MakesTestCase parents n name ↔
      Derives parents n name ∨ ∃ negative, Implements parents negative n name := by
  constructor
  · intro h
    cases h with
    | derives hlabel hderived hparent => exact .inl ⟨hlabel, _, hderived, hparent⟩
    | implements hlabel himplemented hnamed hparent hfor =>
      exact .inr ⟨_, _, _, _, hlabel, himplemented, hnamed, hparent, hfor⟩
  · rintro (⟨hlabel, _, hderived, hparent⟩ |
      ⟨negative, header, path, parent, hlabel, himplemented, hnamed, hparent, hfor⟩)
    · exact .derives hlabel hderived hparent
    · exact .implements hlabel himplemented hnamed hparent hfor

/-- At most negative implementations make the type a test case: none of its declarations derives one of the
traits, and no implementation gives it one. -/
structure OnlyNegative (parents : List String) (tree : Node) (name : String) : Prop where
  underived : ∀ p n, tree.at? p = some n → ¬ Derives parents n name
  unimplemented : ∀ p n, tree.at? p = some n → ¬ Implements parents false n name

/-- Some negative implementation for the type stands in the tree. -/
def HasNegative (parents : List String) (tree : Node) (name : String) : Prop :=
  ∃ p n, tree.at? p = some n ∧ Implements parents true n name

theorem OnlyNegative.exists_makesTestCase_iff {parents : List String} {tree : Node} {name : String}
    (h : OnlyNegative parents tree name) :
    (∃ p n, tree.at? p = some n ∧ MakesTestCase parents n name) ↔ HasNegative parents tree name := by
  constructor
  · rintro ⟨p, n, hat, hmakes⟩
    rcases makesTestCase_iff.1 hmakes with hderives | ⟨negative, himplements⟩
    · exact absurd hderives (h.underived p n hat)
    · cases negative with
      | false => exact absurd himplements (h.unimplemented p n hat)
      | true => exact ⟨p, n, hat, himplements⟩
  · rintro ⟨p, n, hat, himplements⟩
    exact ⟨p, n, hat, makesTestCase_iff.2 (.inr ⟨true, himplements⟩)⟩

/-! ### What is reported -/

/-- The member should be private by the settings of the rule if its type is a test case. -/
structure MayExpose (r : TestCaseAccessibility) (tree : Node) (e : Exposure) : Prop where
  visible : ∃ n m, IsMemberOf tree e.place e.owner n m ∧ ¬ IsTest n m ∧ m.name = e.name ∧
    m.visibility = some e.span
  ownerChecked : ¬ (r.exemptsPrefixedTypes = true ∧ r.Allows e.owner)
  notCalledByRunner : e.name ∉ lifecycleMembers
  notAllowed : ¬ r.Allows e.name

theorem exposes_iff {r : TestCaseAccessibility} {tree : Node} {e : Exposure} :
    r.Exposes tree e ↔ r.MayExpose tree e ∧
      ∃ p n, tree.at? p = some n ∧ MakesTestCase r.parentTypes n e.owner := by
  constructor
  · intro h
    exact ⟨⟨h.visible, h.ownerChecked, h.notCalledByRunner, h.notAllowed⟩, h.ofTestCase⟩
  · rintro ⟨h, hcase⟩
    exact ⟨h.visible, hcase, h.ownerChecked, h.notCalledByRunner, h.notAllowed⟩

/-- A member belongs to one type: its address leads to the node that holds it. -/
theorem IsMemberOf.owner_unique {tree : Node} {place : Address} {owner other : String} {n n' : Node}
    {m m' : Member} (h : IsMemberOf tree place owner n m) (h' : IsMemberOf tree place other n' m') :
    other = owner := by
  obtain ⟨q, i, j, o, holder, rfl, hat, -, hheld, -⟩ := h
  obtain ⟨q', i', j', o', holder', hplace, hat', -, hheld', -⟩ := h'
  obtain ⟨rfl, -⟩ := List.append_inj' hplace rfl
  cases hat.symm.trans hat'
  have howner : ownerName? o.label = some owner := (holds_iff.1 hheld).1
  have hother : ownerName? o.label = some other := (holds_iff.1 hheld').1
  exact Option.some.inj (hother.symm.trans howner)

/-- **A negative implementation counts like any other one.**  Suppose that a type derives none of the traits
of test cases and that only negative implementations of them are for it.  If there is no such
implementation, then no member of the type is reported.  If there is one, then just those members are
reported that should be private in a test case.  The reports on other types are what they are. -/
theorem reports_by_negative_impls (r : TestCaseAccessibility) (source : SourceFile) (name : String)
    (h : OnlyNegative r.parentTypes source.tree name) :
    ∃ es : List Exposure, (es.map (·.place)).Nodup ∧
      (∀ e, e ∈ es ↔ r.Exposes source.tree e) ∧
      r.rule.check source = es.map (Exposure.violation r source) ∧
      (¬ HasNegative r.parentTypes source.tree name →
        ∀ e ∈ es, ∀ n m, ¬ IsMemberOf source.tree e.place name n m) ∧
      (HasNegative r.parentTypes source.tree name →
        ∀ e, e.owner = name → (e ∈ es ↔ r.MayExpose source.tree e)) := by
  refine ⟨r.exposures source.tree, r.nodup_exposures source.tree, fun _ => mem_exposures,
    check_eq_exposures r source, ?_, ?_⟩
  · intro hnone e he n m hmember
    obtain ⟨hmay, hcase⟩ := exposes_iff.1 (mem_exposures.1 he)
    obtain ⟨_, _, hvisible, -⟩ := hmay.visible
    have howner : e.owner = name := hmember.owner_unique hvisible
    rw [howner] at hcase
    exact hnone (h.exists_makesTestCase_iff.1 hcase)
  · rintro hsome e rfl
    rw [mem_exposures, exposes_iff]
    exact and_iff_left (h.exists_makesTestCase_iff.2 hsome)

/-! ### A file with a negative implementation -/

/-- The type that a node makes a test case because it derives a trait. -/
def deriver? (parents : List String) (n : Node) : Option String :=
  match n.label with
  | .impl _ => none
  | _ => testCaseOf? parents n

/-- The type that a node makes a test case because it implements a trait, with the sign. -/
def implementer? (parents : List String) (n : Node) : Option (Bool × String) :=
  match n.label with
  | .impl header =>
    header.implemented.bind fun i => (testCaseOf? parents n).map fun name => (i.1, name)
  | _ => none

theorem deriver?_of_derives {parents : List String} {n : Node} {name : String}
    (h : Derives parents n name) : deriver? parents n = some name := by
  have hcase := testCaseOf?_eq_some.2 (makesTestCase_iff.2 (.inl h))
  rcases h.1 with hlabel | hlabel | hlabel <;> rw [deriver?, hlabel] <;> exact hcase

theorem implementer?_of_implements {parents : List String} {negative : Bool} {n : Node} {name : String}
    (h : Implements parents negative n name) : implementer? parents n = some (negative, name) := by
  have hcase := testCaseOf?_eq_some.2 (makesTestCase_iff.2 (.inr ⟨negative, h⟩))
  obtain ⟨header, path, parent, hlabel, himplemented, -⟩ := h
  rw [implementer?, hlabel]
  simp only [himplemented, hcase, Option.bind_some, Option.map_some]

/-- What a function finds at the nodes of a tree that have a kind. -/
def foundIn {α : Type} (f : Node → Option α) (tree : Node) : List α :=
  tree.hookable.filterMap fun p => (tree.at? p).bind f

theorem mem_foundIn {α : Type} {f : Node → Option α} {tree n : Node} {p : Address} {a : α}
    (hat : tree.at? p = some n) (hkind : n.kind?.isSome = true) (hf : f n = some a) :
    a ∈ foundIn f tree := by
  refine List.mem_filterMap.2 ⟨p, mem_hookable.2 ⟨n, hat, hkind⟩, ?_⟩
  rw [hat, Option.bind_some, hf]

theorem onlyNegative_of_foundIn {parents : List String} {tree : Node} {name : String}
    (hderives : name ∉ foundIn (deriver? parents) tree)
    (himplements : (false, name) ∉ foundIn (implementer? parents) tree) :
    OnlyNegative parents tree name where
  underived p n hat h := by
    have hkind : n.kind?.isSome = true := by
      rcases h.1 with hlabel | hlabel | hlabel <;> rw [kind?, hlabel] <;> rfl
    exact hderives (mem_foundIn hat hkind (deriver?_of_derives h))
  unimplemented p n hat h := by
    have hkind : n.kind?.isSome = true := by
      obtain ⟨header, _, _, hlabel, -⟩ := h
      rw [kind?, hlabel]
      rfl
    exact himplements (mem_foundIn hat hkind (implementer?_of_implements h))

/-- A type that says that it is no test case. -/
def negativeImpl : List Char :=
  ("struct LoginTests \x7b\n    pub session: Session,\n\x7d\n\n" ++
    "impl !XCTestCase for LoginTests \x7b\x7d\n").toList

theorem exists_negativeImpl : ∃ source : SourceFile, source.text = negativeImpl ∧
    OnlyNegative standard.parentTypes source.tree "LoginTests" ∧
    (standard.exposures source.tree).map (fun e => (e.owner, e.name)) = [("LoginTests", "session")] := by
  obtain ⟨source, htext, hderives, himplements, hexposures⟩ :=
    SourceFile.exists_of_parseProgram negativeImpl (fun tree =>
      "LoginTests" ∉ foundIn (deriver? standard.parentTypes) tree ∧
      (false, "LoginTests") ∉ foundIn (implementer? standard.parentTypes) tree ∧
      (standard.exposures tree).map (fun e => (e.owner, e.name)) = [("LoginTests", "session")])
      (by decide +kernel)
  exact ⟨source, htext, onlyNegative_of_foundIn hderives himplements, hexposures⟩

/-- The member of the type is reported, since the negative implementation counts. -/
theorem reports_by_negative_impls_loginTests :
    ∃ source : SourceFile, source.text = negativeImpl ∧
      OnlyNegative standard.parentTypes source.tree "LoginTests" ∧
      ∃ es : List Exposure, (es.map (·.place)).Nodup ∧
        (∀ e, e ∈ es ↔ standard.Exposes source.tree e) ∧
        standard.rule.check source = es.map (Exposure.violation standard source) ∧
        (¬ HasNegative standard.parentTypes source.tree "LoginTests" →
          ∀ e ∈ es, ∀ n m, ¬ IsMemberOf source.tree e.place "LoginTests" n m) ∧
        (HasNegative standard.parentTypes source.tree "LoginTests" →
          ∀ e, e.owner = "LoginTests" → (e ∈ es ↔ standard.MayExpose source.tree e)) := by
  obtain ⟨source, htext, honly, -⟩ := exists_negativeImpl
  exact ⟨source, htext, honly, reports_by_negative_impls standard source "LoginTests" honly⟩

/-- No declaration of the type derives a trait of test cases and no implementation gives it one, but a
member of the type is reported. -/
theorem reports_under_negative_impl :
    ∃ source : SourceFile, source.text = negativeImpl ∧
      OnlyNegative standard.parentTypes source.tree "LoginTests" ∧
      (standard.rule.check source).map (·.reason) = [some (reason "session" "LoginTests")] := by
  obtain ⟨source, htext, honly, hexposures⟩ := exists_negativeImpl
  refine ⟨source, htext, honly, ?_⟩
  rw [check_eq_exposures, List.map_map]
  have hreasons : (standard.exposures source.tree).map
      ((·.reason) ∘ Exposure.violation standard source) =
      ((standard.exposures source.tree).map fun e => (e.owner, e.name)).map
        fun e => some (reason e.2 e.1) := by
    rw [List.map_map]
    rfl
  rw [hreasons, hexposures]
  rfl

end TestCaseAccessibility

end SourceLint
