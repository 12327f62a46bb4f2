import Mathlib.Data.List.Nodup
import SourceLint.Proofs.Data.Steps
import SourceLint.Proofs.Toml.Yields
import SourceLint.Toml.Document

/-!
# Each key once

In a document that is read no table has a key twice, at any depth.  Tables grow in four ways: by keys with
dots, by headers, by the headers of several tables of one name, and by braces.  All of them go through
`descend`, which changes one table at the end of a path, so the invariant is that the change keeps the keys
of this one table apart.

* **`Item.KeysOnce`**, **`EntriesOnce`** — no table in the part has a key twice.
* **`entriesOnce_descend`** — a change at the end of a path keeps it.
* **`Draft.KeysOnce`** — the invariant of a document in the making: the place of the table that is being
  read is vacant, as the table is put there without a further look.
* **`entriesOnce_documentOf`** — documents that are read.
-/

namespace SourceLint.Toml

open Reader

/-! ### Names in tables -/

variable {entries out : List (Key × Item)} {name : String} {item : Item}

/-- No table in the part has a key twice. -/
inductive Item.KeysOnce : Item → Prop where
  | scalar (value : Scalar) (stretch : Stretch) : KeysOnce (.scalar value stretch)
  | array {elements : List Item} (h : ∀ i ∈ elements, KeysOnce i) (stretch : Stretch) :
      KeysOnce (.array elements stretch)
  | tables {elements : List Item} (h : ∀ i ∈ elements, KeysOnce i) (stretch : Option Stretch) :
      KeysOnce (.tables elements stretch)
  | table {entries : List (Key × Item)} (hnames : (entries.map (·.1.name)).Nodup)
      (h : ∀ e ∈ entries, KeysOnce e.2) (form : TableForm) (stretch : Option Stretch) :
      KeysOnce (.table form entries stretch)

/-- No name occurs twice, neither here nor in a table further inside. -/
structure EntriesOnce (entries : List (Key × Item)) : Prop where
  names : (entries.map (·.1.name)).Nodup
  inside : ∀ e ∈ entries, e.2.KeysOnce

theorem entriesOnce_nil : EntriesOnce [] :=
  ⟨List.nodup_nil, fun _ h => absurd h List.not_mem_nil⟩

theorem EntriesOnce.keysOnce (h : EntriesOnce entries) (form : TableForm) (stretch : Option Stretch) :
    Item.KeysOnce (.table form entries stretch) :=
  .table h.names h.inside form stretch

theorem EntriesOnce.of_keysOnce {form : TableForm} {stretch : Option Stretch}
    (h : Item.KeysOnce (.table form entries stretch)) : EntriesOnce entries := by
  cases h with
  | table hnames hinside => exact ⟨hnames, hinside⟩

theorem entryNamed?_eq_none_iff : entryNamed? name entries = none ↔ name ∉ entries.map (·.1.name) := by
  rw [entryNamed?, Option.map_eq_none_iff, List.find?_eq_none]
  simp

theorem entryNamed?_cons (name : String) (key : Key) (item : Item) (rest : List (Key × Item)) :
    entryNamed? name ((key, item) :: rest) =
      if key.name = name then some item else entryNamed? name rest := by
  rw [entryNamed?, List.find?_cons]
  by_cases hname : key.name = name
  · simp [hname]
  · have hbeq : (key.name == name) = false := by simp [hname]
    rw [hbeq, if_neg hname]
    rfl

theorem mem_of_entryNamed? (h : entryNamed? name entries = some item) :
    ∃ key, (key, item) ∈ entries ∧ key.name = name := by
  rw [entryNamed?, Option.map_eq_some_iff] at h
  obtain ⟨e, hfind, rfl⟩ := h
  exact ⟨e.1, List.mem_of_find?_eq_some hfind, by simpa using List.find?_some hfind⟩

/-- The first entry of a name is the only one. -/
theorem entryNamed?_of_mem (hnames : (entries.map (·.1.name)).Nodup) {key : Key}
    (hmem : (key, item) ∈ entries) : entryNamed? key.name entries = some item := by
  induction entries with
  | nil => cases hmem
  | cons first rest ih =>
    obtain ⟨hfirst, hrest⟩ := List.nodup_cons.1 hnames
    rw [entryNamed?_cons]
    rcases List.mem_cons.1 hmem with rfl | hmem
    · exact if_pos rfl
    · have hne : first.1.name ≠ key.name := by
        intro heq
        exact hfirst (List.mem_map.2 ⟨_, hmem, heq.symm⟩)
      rw [if_neg hne]
      exact ih hrest hmem

theorem EntriesOnce.of_entryNamed? (h : EntriesOnce entries)
    (hitem : entryNamed? name entries = some item) : item.KeysOnce := by
  obtain ⟨key, hmem, -⟩ := mem_of_entryNamed? hitem
  exact h.inside _ hmem

/-! ### Entries that are added, replaced and removed -/

theorem EntriesOnce.append (h : EntriesOnce entries) {key : Key} (hitem : item.KeysOnce)
    (hnew : entryNamed? key.name entries = none) : EntriesOnce (entries ++ [(key, item)]) := by
  constructor
  · rw [List.map_append, List.nodup_append]
    refine ⟨h.names, List.nodup_singleton _, ?_⟩
    intro n hn m hm heq
    obtain rfl := List.mem_singleton.1 hm
    rw [heq] at hn
    exact entryNamed?_eq_none_iff.1 hnew hn
  · intro e he
    rcases List.mem_append.1 he with he | he
    · exact h.inside e he
    · obtain rfl := List.mem_singleton.1 he
      exact hitem

theorem names_replaceEntry (name : String) (item : Item) (entries : List (Key × Item)) :
    (replaceEntry name item entries).map (·.1.name) = entries.map (·.1.name) := by
  rw [replaceEntry, List.map_map]
  refine List.map_congr_left fun e _ => ?_
  show (if e.1.name == name then (e.1, item) else e).1.name = e.1.name
  split <;> rfl

theorem EntriesOnce.replace (h : EntriesOnce entries) (name : String) (hitem : item.KeysOnce) :
    EntriesOnce (replaceEntry name item entries) := by
  constructor
  · rw [names_replaceEntry]
    exact h.names
  · intro e he
    obtain ⟨old, hold, rfl⟩ := List.mem_map.1 he
    by_cases hname : (old.1.name == name) = true
    · rw [if_pos hname]
      exact hitem
    · rw [if_neg hname]
      exact h.inside old hold

theorem EntriesOnce.remove (h : EntriesOnce entries) (name : String) :
    EntriesOnce (removeEntry name entries) :=
  ⟨h.names.sublist (List.filter_sublist.map _), fun e he => h.inside e (List.mem_filter.1 he).1⟩

theorem entryNamed?_removeEntry : entryNamed? name (removeEntry name entries) = none := by
  rw [entryNamed?_eq_none_iff, removeEntry]
  simp

theorem entryNamed?_append_of_none {key : Key} (h : entryNamed? key.name entries = none) :
    entryNamed? key.name (entries ++ [(key, item)]) = some item := by
  rw [entryNamed?, Option.map_eq_none_iff] at h
  rw [entryNamed?, List.find?_append, h]
  simp

theorem entryNamed?_replaceEntry {old : Item} (h : entryNamed? name entries = some old) :
    entryNamed? name (replaceEntry name item entries) = some item := by
  rw [entryNamed?, Option.map_eq_some_iff] at h
  obtain ⟨e, hfind, -⟩ := h
  have hname : (e.1.name == name) = true := by simpa using List.find?_some hfind
  rw [entryNamed?, replaceEntry, List.find?_map]
  have hcomp : (fun e : Key × Item => e.1.name == name) ∘
      (fun e => if e.1.name == name then (e.1, item) else e) = fun e => e.1.name == name := by
    funext f
    show ((if f.1.name == name then (f.1, item) else f).1.name == name) = (f.1.name == name)
    split <;> rfl
  rw [hcomp, hfind, Option.map_some, if_pos hname]
  rfl

/-! ### Changes at the end of a path -/

open Draft (entriesAt)

theorem entriesAt_nil (path : List Key) : entriesAt [] path = [] := by
  cases path with
  | nil => rfl
  | cons key path => rfl

theorem EntriesOnce.entriesAt (h : EntriesOnce entries) (path : List Key) :
    EntriesOnce (entriesAt entries path) := by
  induction path generalizing entries with
  | nil => exact h
  | cons key path ih =>
    rw [Draft.entriesAt]
    split
    · rename_i form inner stretch hnamed
      exact ih (.of_keysOnce (h.of_entryNamed? hnamed))
    · rename_i elements stretch hnamed
      split
      · rename_i form inner s hlast
        cases h.of_entryNamed? hnamed with
        | tables helements => exact ih (.of_keysOnce (helements _ (List.mem_of_getLast? hlast)))
      · exact entriesOnce_nil
    · exact entriesOnce_nil

/-- What becomes of the last of some elements. -/
theorem changeLast_cases {change : Item → Except AssemblyError Item} {elements changed : List Item}
    (h : changeLast change elements = .ok changed) :
    (elements = [] ∧ changed = []) ∨ ∃ before last last', elements = before ++ [last] ∧
      change last = .ok last' ∧ changed = before ++ [last'] := by
  rw [changeLast] at h
  split at h
  · rename_i hempty
    cases h
    exact .inl ⟨List.reverse_eq_nil_iff.1 hempty, rfl⟩
  · rename_i last before hreverse
    obtain ⟨last', hlast, hchanged⟩ := exists_of_bind_ok h
    cases hchanged
    refine .inr ⟨before.reverse, last, last', ?_, hlast, rfl⟩
    rw [← List.reverse_reverse elements, hreverse, List.reverse_cons]

/-- The last of some elements is no table. -/
def EndsWithoutTable (elements : List Item) : Prop :=
  ∀ form inner stretch, elements.getLast? ≠ some (.table form inner stretch)

/-- What a change at the end of a path does at the first name of the path: it goes on in a table that is
missing so far, in the table that is there, or in the last of several tables.  Nothing is changed if this is
no table. -/
inductive Descent (inside : TableChange) (form : TableForm) (key : Key) (entries : List (Key × Item)) :
    List (Key × Item) → Prop where
  | missing {inner} (hnamed : entryNamed? key.name entries = none) (hinside : inside form [] = .ok inner) :
      Descent inside form key entries (entries ++ [(key, .table form inner none)])
  | table {found inner changed stretch}
      (hnamed : entryNamed? key.name entries = some (.table found inner stretch))
      (hinside : inside found inner = .ok changed) :
      Descent inside form key entries (replaceEntry key.name (.table found changed stretch) entries)
  | last {before found inner changed s stretch}
      (hnamed : entryNamed? key.name entries = some (.tables (before ++ [.table found inner s]) stretch))
      (hinside : inside found inner = .ok changed) :
      Descent inside form key entries
        (replaceEntry key.name (.tables (before ++ [.table found changed s]) stretch) entries)
  | unchanged {elements stretch} (hnamed : entryNamed? key.name entries = some (.tables elements stretch))
      (hlast : EndsWithoutTable elements) :
      Descent inside form key entries (replaceEntry key.name (.tables elements stretch) entries)

theorem descent_of_descend {braced : Bool} {form here : TableForm} {change : TableChange}
    {walked : List String} {key : Key} {path : List Key}
    (h : descend braced form change walked (key :: path) here entries = .ok out) :
    Descent (descend braced form change (walked ++ [key.name]) path) form key entries out := by
  rw [descend] at h
  split at h
  · rename_i hnamed
    obtain ⟨inner, hinside, hout⟩ := exists_of_bind_ok h
    cases hout
    exact .missing hnamed hinside
  · rename_i found inner stretch hnamed
    split at h
    · cases h
    · split at h
      · cases h
      · obtain ⟨changed, hinside, hout⟩ := exists_of_bind_ok h
        cases hout
        exact .table hnamed hinside
  · rename_i elements stretch hnamed
    obtain ⟨changed, hlast, hout⟩ := exists_of_bind_ok h
    cases hout
    rcases changeLast_cases hlast with ⟨rfl, rfl⟩ | ⟨before, last, last', rfl, hchange, rfl⟩
    · exact .unchanged hnamed fun _ _ _ h => by cases h
    · cases last with
      | table found inner s =>
        obtain ⟨changed, hinside, hlast'⟩ := exists_of_bind_ok hchange
        cases hlast'
        exact .last hnamed hinside
      | scalar value s =>
        cases hchange
        exact .unchanged hnamed fun _ _ _ h => by simp at h
      | array elements s =>
        cases hchange
        exact .unchanged hnamed fun _ _ _ h => by simp at h
      | tables elements s =>
        cases hchange
        exact .unchanged hnamed fun _ _ _ h => by simp at h
  · cases h

theorem entriesAt_table {key : Key} (path : List Key) {form : TableForm} {inner : List (Key × Item)}
    {stretch : Option Stretch} (h : entryNamed? key.name entries = some (.table form inner stretch)) :
    entriesAt entries (key :: path) = entriesAt inner path := by
  rw [Draft.entriesAt, h]

theorem entriesAt_last {key : Key} (path : List Key) {form : TableForm} {before : List Item}
    {inner : List (Key × Item)} {s stretch : Option Stretch}
    (h : entryNamed? key.name entries = some (.tables (before ++ [.table form inner s]) stretch)) :
    entriesAt entries (key :: path) = entriesAt inner path := by
  rw [Draft.entriesAt, h]
  simp

section Descend

variable {braced : Bool} {form here : TableForm} {change : TableChange} {walked : List String}
  {path : List Key} (h : descend braced form change walked path here entries = .ok out)

include h

/-- **A change at the end of a path keeps all keys apart** if it keeps those of the table apart that stands
there. -/
theorem entriesOnce_descend (hentries : EntriesOnce entries)
    (hchange : ∀ here changed, change here (entriesAt entries path) = .ok changed → EntriesOnce changed) :
    EntriesOnce out := by
  -- Along the path one table of each level is replaced, and what is inside of it by induction has its keys
  -- apart; the names of the level itself stay, or one that was missing is added.
  induction path generalizing entries out walked here with
  | nil => exact hchange here out h
  | cons key path ih =>
    cases descent_of_descend h with
    | missing hnamed hinside =>
      have hat : entriesAt entries (key :: path) = entriesAt [] path := by
        rw [Draft.entriesAt, hnamed, entriesAt_nil]
      have hinner := ih hinside entriesOnce_nil (hat ▸ hchange)
      exact hentries.append (hinner.keysOnce form none) hnamed
    | @table found inner changed stretch hnamed hinside =>
      have hinner := ih hinside (.of_keysOnce (hentries.of_entryNamed? hnamed))
        (entriesAt_table path hnamed ▸ hchange)
      exact hentries.replace key.name (hinner.keysOnce found stretch)
    | @last before found inner changed s stretch hnamed hinside =>
      cases hentries.of_entryNamed? hnamed with
      | tables helements =>
        obtain ⟨hbefore, hlast⟩ := List.forall_mem_append.1 helements
        have hinner := ih hinside (.of_keysOnce (hlast _ List.mem_cons_self))
          (entriesAt_last path hnamed ▸ hchange)
        refine hentries.replace key.name (.tables (List.forall_mem_append.2 ⟨hbefore, ?_⟩) stretch)
        exact List.forall_mem_singleton.2 (hinner.keysOnce found s)
    | unchanged hnamed hlast => exact hentries.replace key.name (hentries.of_entryNamed? hnamed)

/-- What stands at the end of the path afterwards is what the change makes of it, if anything. -/
theorem entriesAt_descend :
    entriesAt out path = [] ∨
      ∃ here, change here (entriesAt entries path) = .ok (entriesAt out path) := by
  induction path generalizing entries out walked here with
  | nil => exact .inr ⟨here, h⟩
  | cons key path ih =>
    cases descent_of_descend h with
    | missing hnamed hinside =>
      rw [entriesAt_table path (entryNamed?_append_of_none hnamed), Draft.entriesAt, hnamed]
      simpa only [entriesAt_nil] using ih hinside
    | table hnamed hinside =>
      rw [entriesAt_table path (entryNamed?_replaceEntry hnamed), entriesAt_table path hnamed]
      exact ih hinside
    | last hnamed hinside =>
      rw [entriesAt_last path (entryNamed?_replaceEntry hnamed), entriesAt_last path hnamed]
      exact ih hinside
    | unchanged hnamed hlast =>
      refine .inl ?_
      rw [Draft.entriesAt, entryNamed?_replaceEntry hnamed]
      dsimp only
      split
      · rename_i form inner s hgetLast
        exact absurd hgetLast (hlast form inner s)
      · rfl

end Descend

/-- A value is added only under a name that is new. -/
theorem EntriesOnce.addEntry (h : EntriesOnce entries) {braced : Bool} {path : Option (List String)}
    {dots : List Key} {key : Key} {here : TableForm} (hitem : item.KeysOnce)
    (hadd : addEntry braced path dots key item here entries = .ok out) : EntriesOnce out := by
  refine entriesOnce_descend hadd h fun here changed hchange => ?_
  split at hchange
  · cases hchange
  · split at hchange
    · cases hchange
    · rename_i hnew
      cases hchange
      have hnone : entryNamed? key.name (Draft.entriesAt entries dots) = none := by
        cases hnamed : entryNamed? key.name (Draft.entriesAt entries dots) with
        | none => rfl
        | some old => simp [hnamed] at hnew
      exact (h.entriesAt dots).append hitem hnone

/-! ### Documents in the making -/

/-- No table of the draft has a key twice, and the place of the table that is being read is vacant. -/
structure Draft.KeysOnce (d : Draft) : Prop where
  root : EntriesOnce d.root
  current : EntriesOnce d.current
  vacant : d.isElement = false →
    entryNamed? (splitKey d.path).2.name (entriesAt d.root (splitKey d.path).1) = none

namespace Draft

variable {d e : Draft}

theorem keysOnce_empty : Draft.empty.KeysOnce :=
  ⟨entriesOnce_nil, entriesOnce_nil, fun _ => rfl⟩

theorem KeysOnce.close (h : d.KeysOnce) (hclose : d.close = .ok out) : EntriesOnce out := by
  rw [Draft.close] at hclose
  split at hclose
  · cases hclose
    exact h.current
  · refine entriesOnce_descend hclose h.root fun here changed hchange => ?_
    have hat : EntriesOnce (entriesAt d.root (splitKey d.path).1) := h.root.entriesAt _
    have hfinished : Item.KeysOnce (.table .header d.current d.stretch) := h.current.keysOnce _ _
    dsimp only at hchange
    split at hchange
    · split at hchange
      · rename_i elements stretch hnamed
        cases hchange
        cases hat.of_entryNamed? hnamed with
        | tables helements =>
          refine hat.replace _ (.tables (List.forall_mem_append.2 ⟨helements, ?_⟩) _)
          exact List.forall_mem_singleton.2 hfinished
      · cases hchange
        exact hat
    · -- The only place where no name is looked up: that it is free is part of the invariant.
      rename_i hsingle
      cases hchange
      exact hat.append hfinished (h.vacant (by simpa using hsingle))

/-- The table with a header has no place of its own any more: it was taken away from there. -/
theorem KeysOnce.openTable {path : List Key} {stretch : Stretch} (h : d.KeysOnce)
    (hopen : d.openTable path stretch = .ok e) : e.KeysOnce := by
  obtain ⟨closed, hclose, hrest⟩ := exists_of_bind_ok hopen
  obtain ⟨reached, hreached, hrest⟩ := exists_of_bind_ok hrest
  have hroot : EntriesOnce reached := by
    refine entriesOnce_descend hreached (h.close hclose) fun here changed hchange => ?_
    cases hchange
    exact (h.close hclose).entriesAt _
  -- Whether the table is new or was implied so far, what is left of the document is without it.
  have hremoved {current root} (hcurrent : EntriesOnce current)
      (hremove : descend false .implied (fun _ entries => .ok (removeEntry (splitKey path).2.name entries))
        [] (splitKey path).1 .header reached = .ok root) :
      Draft.KeysOnce ⟨root, current, some stretch, path, false⟩ := by
    refine ⟨?_, hcurrent, fun _ => ?_⟩
    · refine entriesOnce_descend hremove hroot fun here changed hchange => ?_
      cases hchange
      exact (hroot.entriesAt _).remove _
    · show entryNamed? (splitKey path).2.name (Draft.entriesAt root (splitKey path).1) = none
      rcases entriesAt_descend hremove with hnone | ⟨here, hchange⟩
      · rw [hnone]
        rfl
      · rw [← Except.ok.inj hchange]
        exact entryNamed?_removeEntry
  split at hrest
  · obtain ⟨current, hcurrent, hrest⟩ := exists_of_bind_ok hrest
    obtain ⟨root, hremove, hdraft⟩ := exists_of_bind_ok hrest
    cases hcurrent
    cases hdraft
    exact hremoved entriesOnce_nil hremove
  · rename_i entries stretch' hnamed
    obtain ⟨current, hcurrent, hrest⟩ := exists_of_bind_ok hrest
    obtain ⟨root, hremove, hdraft⟩ := exists_of_bind_ok hrest
    cases hcurrent
    cases hdraft
    exact hremoved (.of_keysOnce ((hroot.entriesAt _).of_entryNamed? hnamed)) hremove
  · cases hrest

theorem KeysOnce.openElement {path : List Key} {stretch : Stretch} (h : d.KeysOnce)
    (hopen : d.openElement path stretch = .ok e) : e.KeysOnce := by
  obtain ⟨closed, hclose, hrest⟩ := exists_of_bind_ok hopen
  obtain ⟨root, hreserve, hdraft⟩ := exists_of_bind_ok hrest
  cases hdraft
  refine ⟨?_, entriesOnce_nil, fun hsingle => by cases hsingle⟩
  have hclosed := h.close hclose
  refine entriesOnce_descend hreserve hclosed fun here changed hchange => ?_
  have hat := hclosed.entriesAt (splitKey path).1
  split at hchange
  · rename_i hnamed
    cases hchange
    exact hat.append (.tables (fun _ h => absurd h List.not_mem_nil) none) hnamed
  · cases hchange
    exact hat
  · cases hchange

theorem KeysOnce.add {keys : List Key} (h : d.KeysOnce) (hitem : item.KeysOnce)
    (hadd : d.add keys item = .ok e) : e.KeysOnce := by
  obtain ⟨current, hcurrent, hdraft⟩ := exists_of_bind_ok hadd
  cases hdraft
  exact ⟨h.root, h.current.addEntry hitem hcurrent, h.vacant⟩

end Draft

/-! ### Values -/

theorem entriesOnce_assembleBraced {pairs : List (List Key × Item)} {done : List (Key × Item)}
    (hpairs : ∀ pair ∈ pairs, pair.2.KeysOnce) (hdone : EntriesOnce done)
    (h : assembleBraced pairs done = .ok out) : EntriesOnce out := by
  induction pairs generalizing done with
  | nil => cases h; exact hdone
  | cons pair rest ih =>
    obtain ⟨hpair, hrest⟩ := List.forall_mem_cons.1 hpairs
    obtain ⟨next, hadd, hnext⟩ := exists_of_bind_ok h
    exact ih hrest (hdone.addEntry hpair hadd) hnext

section Elements

variable {element : Reader Item} (helement : element.Yields Item.KeysOnce)

include helement

theorem yields_listOf : (listOf element).Yields Item.KeysOnce := by
  have hpadded : (do gap; let e ← element; gap; return e : Reader Item).Yields Item.KeysOnce :=
    .after fun _ => .bind helement fun _ he => .after fun _ => .pure he
  have hnone : ∀ i ∈ ([] : List Item), i.KeysOnce := fun _ h => absurd h List.not_mem_nil
  refine .bind (yields_stretched (P := fun is => ∀ i ∈ is, i.KeysOnce) ?_) fun r hr => .pure (.array hr r.2)
  refine .after fun _ => .bind (yields_commit ?_) fun elements helements => .after fun _ => .pure helements
  refine .after fun rest => .ite (.pure hnone) ?_
  refine .bind (yields_separated hpadded ',') fun elements helements => .ite ?_ ?_
  · exact .after fun _ => .after fun _ => .pure helements
  · exact .after fun _ => .pure helements

theorem yields_bracedEntry : (bracedEntry element).Yields fun pair => pair.2.KeysOnce := by
  refine .after fun key => yields_commit ?_
  refine .after fun _ => .after fun _ => .bind helement fun item hitem => ?_
  exact .after fun _ => .pure hitem

theorem yields_bracedOf : (bracedOf element).Yields Item.KeysOnce := by
  have hpairs : (do let pairs ← separated ',' (bracedEntry element); blanks; return pairs :
      Reader (List (List Key × Item))).Yields fun pairs => ∀ pair ∈ pairs, pair.2.KeysOnce :=
    .bind (yields_separated (yields_bracedEntry helement) ',') fun _ h => .after fun _ => .pure h
  refine .bind (yields_stretched (P := EntriesOnce) ?_) fun r hr => .pure (hr.keysOnce .braces _)
  refine .after fun _ => .bind (yields_commit ?_) fun entries hentries => .after fun _ => .pure hentries
  refine yields_checked hpairs fun pairs entries h hassemble => ?_
  split at hassemble
  · rename_i assembled hassembled
    cases hassemble
    exact entriesOnce_assembleBraced h entriesOnce_nil hassembled
  · cases hassemble

end Elements

/-- Values are lists, tables in braces, or scalars. -/
theorem yields_value (depth : Nat) : (value depth).Yields Item.KeysOnce := by
  induction depth with
  | zero =>
    refine .after fun next => ?_
    split
    · exact .after fun _ => yields_throw _
    · exact .after fun _ => yields_throw _
    · exact .after fun r => .pure (.scalar r.1 r.2)
  | succ depth ih =>
    refine .after fun next => ?_
    split
    · exact yields_listOf ih
    · exact yields_bracedOf ih
    · exact .after fun r => .pure (.scalar r.1 r.2)

/-! ### Lines -/

theorem yields_changing {α : Type} {P : α → Prop} {p : Reader α} {change : α → Except AssemblyError Draft}
    (hp : p.Yields P) (hchange : ∀ a d, P a → change a = .ok d → d.KeysOnce) :
    (changing p change).Yields Draft.KeysOnce := by
  refine yields_checked hp fun a d ha hd => ?_
  split at hd
  · rename_i changed hchanged
    cases hd
    exact hchange a _ ha hchanged
  · cases hd

theorem yields_entryLine {d : Draft} (h : d.KeysOnce) : (entryLine d).Yields Draft.KeysOnce := by
  refine yields_changing (P := fun pair => pair.2.KeysOnce) ?_ fun pair e hitem hadd => h.add hitem hadd
  refine .after fun key => yields_commit ?_
  refine .after fun _ => .after fun _ => .bind (yields_value _) fun item hitem => ?_
  exact .after fun _ => .pure hitem

theorem yields_headerLine {d : Draft} (h : d.KeysOnce) : (headerLine d).Yields Draft.KeysOnce := by
  have hheader (opening closing expected : String) :
      (header opening closing expected).Yields fun _ => True := fun _ _ _ _ => trivial
  refine yields_labelled (.after fun rest => ?_) _
  split
  · exact yields_changing (hheader _ _ _) fun _ _ _ hopen => h.openElement hopen
  · exact yields_changing (hheader _ _ _) fun _ _ _ hopen => h.openTable hopen
  · exact yields_fail

/-- Line after line, the draft keeps its keys apart. -/
theorem yields_linesWithin {d : Draft} (h : d.KeysOnce) (fuel : Nat) :
    (linesWithin d fuel).Yields Draft.KeysOnce := by
  induction fuel generalizing d with
  | zero => exact .pure h
  | succ fuel ih =>
    refine .after fun _ => .after fun rest => ?_
    split
    · exact .pure h
    · exact .after fun _ => ih h
    · exact .bind (yields_commit (yields_headerLine h)) fun _ he => ih he
    · exact .after fun _ => ih h
    · exact .after fun _ => ih h
    · exact yields_fail
    · exact .bind (yields_commit (yields_entryLine h)) fun _ he => ih he

/-- **In a document that is read no table has a key twice**, at any depth. -/
theorem entriesOnce_documentOf {text : List Char} (h : documentOf text = .ok entries) :
    EntriesOnce entries := by
  rw [documentOf] at h
  split at h
  · rename_i d rest hlines
    have hd : d.KeysOnce :=
      Yields.after (fun _ => .after fun _ => yields_linesWithin Draft.keysOnce_empty _) _ _ _ hlines
    split at h
    · rename_i closed hclose
      cases h
      exact hd.close hclose
    · cases h
  · cases h

end SourceLint.Toml
