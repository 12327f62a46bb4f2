import SourceLint.Toml.Reader

/-!
# What a reader yields

* **`Reader.Yields`** — whatever a reader returns has a property.  What it returns nothing of, because it
  fails, does not matter.

The lemmas follow the ways in which readers are put together.
-/

namespace SourceLint.Toml.Reader

variable {α β : Type} {P : α → Prop} {Q : β → Prop}

/-- Whatever the reader returns has the property. -/
def Yields (p : Reader α) (P : α → Prop) : Prop :=
  ∀ i a j, p i = .ok (a, j) → P a

namespace Yields

/-- What the second reader yields may rest on what the first one yields. -/
theorem bind {p : Reader α} {f : α → Reader β} (hp : p.Yields P) (hf : ∀ a, P a → (f a).Yields Q) :
    (p >>= f).Yields Q := by
  intro i b k h
  change (p i >>= fun r => f r.1 r.2) = .ok (b, k) at h
  cases hpi : p i with
  | error e => rw [hpi] at h; cases h
  | ok r =>
    rw [hpi] at h
    exact hf r.1 (hp i r.1 r.2 hpi) r.2 b k h

/-- What the second reader yields does not rest on the first one. -/
theorem after {p : Reader α} {f : α → Reader β} (hf : ∀ a, (f a).Yields Q) : (p >>= f).Yields Q :=
  bind (P := fun _ => True) (fun _ _ _ _ => trivial) fun a _ => hf a

theorem pure {a : α} (h : P a) : (pure a : Reader α).Yields P := by
  intro i b j hb
  cases hb
  exact h

theorem ite {c : Prop} [Decidable c] {p q : Reader α} (hp : p.Yields P) (hq : q.Yields P) :
    (if c then p else q).Yields P := by
  split
  · exact hp
  · exact hq

end Yields

/-! ### Failing -/

theorem yields_throw (f : Failure) : (throw f : Reader α).Yields P := by
  intro i a j h
  cases h

theorem yields_fail : (fail : Reader α).Yields P := by
  intro i a j h
  cases h

/-- The reader with its failures changed. -/
def mapFailure (change : Failure → Failure) (p : Reader α) : Reader α := fun i =>
  match p i with
  | .ok r => .ok r
  | .error f => .error (change f)

theorem commit_eq_mapFailure (p : Reader α) :
    commit p = mapFailure (fun f => { f with final := true }) p := rfl

theorem labelled_eq_mapFailure (label : String) (p : Reader α) :
    labelled label p = mapFailure (fun f => { f with label := f.label <|> some label }) p := rfl

section Wrapped

variable {p : Reader α} (hp : p.Yields P)

include hp

theorem yields_mapFailure (change : Failure → Failure) : (mapFailure change p).Yields P := by
  intro i a j h
  rw [mapFailure] at h
  split at h
  · rename_i r hr
    cases h
    exact hp i a j hr
  · cases h

theorem yields_commit : (commit p).Yields P := by
  rw [commit_eq_mapFailure]
  exact yields_mapFailure hp _

theorem yields_labelled (label : String) : (labelled label p).Yields P := by
  rw [labelled_eq_mapFailure]
  exact yields_mapFailure hp _

/-! ### Looking at what was read -/

theorem yields_checked {check : α → Except (Option String) β}
    (hcheck : ∀ a b, P a → check a = .ok b → Q b) : (checked p check).Yields Q := by
  intro i b j h
  rw [checked] at h
  split at h
  · rename_i a k hr
    split at h
    · rename_i b' hb
      cases h
      exact hcheck a b (hp i a j hr) hb
    · cases h
  · cases h

/-! ### More than one -/

theorem yields_stretched : (stretched p).Yields fun r => P r.1 :=
  .after fun _ => .bind hp fun _ ha => .after fun _ => .pure ha

theorem yields_optional : (optional p).Yields fun a? => ∀ a ∈ a?, P a := by
  intro i a? j h
  rw [optional] at h
  split at h
  · rename_i a k hr
    cases h
    intro b hb
    cases hb
    exact hp i a j hr
  · split at h
    · cases h
    · cases h
      intro b hb
      cases hb

theorem yields_repeatedWithin (fuel : Nat) : (repeatedWithin p fuel).Yields fun as => ∀ a ∈ as, P a := by
  induction fuel with
  | zero => exact .pure fun _ h => absurd h List.not_mem_nil
  | succ fuel ih =>
    refine .bind (yields_optional hp) fun a? ha => ?_
    cases a? with
    | none => exact .pure fun _ h => absurd h List.not_mem_nil
    | some a => exact .bind ih fun as has => .pure (List.forall_mem_cons.2 ⟨ha a rfl, has⟩)

theorem yields_repeated : (repeated p).Yields fun as => ∀ a ∈ as, P a :=
  .after fun _ => yields_repeatedWithin hp _

theorem yields_separatedSome (separator : Char) :
    (separatedSome separator p).Yields fun as => ∀ a ∈ as, P a :=
  .bind hp fun _ ha => .bind (yields_repeated (.after fun _ => hp)) fun _ has =>
    .pure (List.forall_mem_cons.2 ⟨ha, has⟩)

theorem yields_separated (separator : Char) : (separated separator p).Yields fun as => ∀ a ∈ as, P a := by
  refine .bind (yields_optional (yields_separatedSome hp separator)) fun as? has => .pure ?_
  cases as? with
  | none => exact fun _ h => absurd h List.not_mem_nil
  | some as => exact has as rfl

end Wrapped

end SourceLint.Toml.Reader
