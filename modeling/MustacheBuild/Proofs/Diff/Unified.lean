import MustacheBuild.Diff.Unified

/-!
A unified diff is empty if and only if the two texts are equal. Where they differ a deletion or an
insertion is found, and every later stage moves it, joins it with others or shows it.
-/
namespace MustacheBuild.Diff

/-! ## Operations that change something -/

/-- Some operation does not keep what it covers. -/
def Changes (operations : List Operation) : Prop := ∃ o ∈ operations, o.tag ≠ .equal

section
variable {operations others : List Operation} {o : Operation}

theorem changes_nil : ¬ Changes [] := by simp [Changes]

theorem changes_cons : Changes (o :: operations) ↔ o.tag ≠ .equal ∨ Changes operations := by
  simp [Changes]

theorem changes_append : Changes (operations ++ others) ↔ Changes operations ∨ Changes others := by
  simp [Changes, or_and_right, exists_or]

theorem changes_reverse : Changes operations.reverse ↔ Changes operations := by
  simp [Changes]

theorem not_changes_keep (i j n : Nat) : ¬ Changes (keep i j n) := by
  unfold keep
  split
  · exact changes_nil
  · simp [Changes, Operation.equal]

end

/-! ## Scripts -/

section
variable {α : Type} [DecidableEq α]

theorem take_commonStart (old new : List α) :
    old.take (commonStart old new) = new.take (commonStart old new) := by
  induction old generalizing new with
  | nil => cases new <;> rfl
  | cons a old ih =>
    cases new with
    | nil => rfl
    | cons b new =>
      rw [commonStart]
      split
      next h => rw [List.take_succ_cons, List.take_succ_cons, h, ih]
      next => rfl

theorem commonStart_self (l : List α) : commonStart l l = l.length := by
  induction l with
  | nil => rfl
  | cons a l ih => rw [commonStart, if_pos rfl, ih, List.length_cons]

theorem drop_commonEnd (old new : List α) :
    old.drop (old.length - commonEnd old new) = new.drop (new.length - commonEnd old new) := by
  have h := take_commonStart old.reverse new.reverse
  rw [List.take_reverse, List.take_reverse] at h
  exact List.reverse_inj.1 h

theorem script_self (l : List α) : script l l = keep 0 0 l.length := by
  unfold script scriptFrom
  dsimp only
  rw [commonStart_self, List.drop_length]
  simp [commonEnd, commonStart, keep]

/-- What is left between what is common at the start and at the end differs, if the lists do. -/
theorem middle_ne {old new : List α} (h : old ≠ new) :
    let ahead := commonStart old new
    let behind := commonEnd (old.drop ahead) (new.drop ahead)
    (old.drop ahead).take ((old.drop ahead).length - behind) ≠
      (new.drop ahead).take ((new.drop ahead).length - behind) := by
  intro ahead behind hmiddle
  have hrest : old.drop ahead = new.drop ahead := by
    rw [← List.take_append_drop ((old.drop ahead).length - behind) (old.drop ahead), hmiddle,
      drop_commonEnd, List.take_append_drop]
  have hstart : old.take ahead = new.take ahead := take_commonStart old new
  rw [← List.take_append_drop ahead old, hstart, hrest, List.take_append_drop] at h
  exact h rfl

/-- Wherever the lists are split, one of the two parts differs. -/
theorem changes_scriptFrom (fuel i j : Nat) {old new : List α} (h : old ≠ new) :
    Changes (scriptFrom fuel i j old new) := by
  induction fuel using Nat.strongRecOn generalizing i j old new with
  | _ fuel ih =>
    have hmiddle := middle_ne h
    unfold scriptFrom
    dsimp only at hmiddle ⊢
    generalize (old.drop _).take _ = old at hmiddle ⊢
    generalize (new.drop _).take _ = new at hmiddle ⊢
    rw [changes_append, changes_append]
    refine Or.inl (Or.inr ?_)
    split
    next hnew =>
      rw [if_neg fun hold => hmiddle (by rw [List.isEmpty_iff.1 hold, List.isEmpty_iff.1 hnew])]
      simp [Changes, Operation.delete]
    next =>
      split
      next => simp [Changes, Operation.insert]
      next =>
        split
        next fuel x y _ =>
          rw [changes_append]
          by_cases htake : old.take x = new.take y
          · refine Or.inr (ih fuel (Nat.lt_succ_self fuel) _ _ fun hdrop => hmiddle ?_)
            rw [← List.take_append_drop x old, htake, hdrop, List.take_append_drop]
          · exact Or.inl (ih fuel (Nat.lt_succ_self fuel) _ _ htake)
        next => simp [Changes, Operation.delete]

theorem changes_script {old new : List α} (h : old ≠ new) : Changes (script old new) :=
  changes_scriptFrom _ 0 0 h

/-! ## Compaction -/

section
variable {old new : List α} {tag : Tag} {limit : Nat}

theorem tag_up (fuel : Nat) (f : Focus) :
    (Focus.up old new fuel f).current.tag = f.current.tag := by
  induction fuel generalizing f with
  | zero => rfl
  | succ fuel ih =>
    unfold Focus.up
    split
    next => rfl
    next previous before _ =>
      dsimp only
      split
      next =>
        split
        next => rw [ih]
        next =>
          split
          next => rw [ih]
          next => rfl
      next =>
        split
        next htag => rw [ih, ← htag]; rfl
        next => rw [ih]

theorem tag_down (fuel : Nat) (f : Focus) :
    (Focus.down old new fuel f).current.tag = f.current.tag := by
  induction fuel generalizing f with
  | zero => rfl
  | succ fuel ih =>
    unfold Focus.down
    split
    next => rfl
    next next' after _ =>
      dsimp only
      split
      next =>
        split
        next => rw [ih]
        next =>
          split
          next => rw [ih]
          next => rfl
      next =>
        split
        next => rw [ih]; rfl
        next => rw [ih]

/-- An operation that is moved stays of its kind, where it takes in others of the same kind. -/
theorem changes_compactTag (htag : tag ≠ .equal) (fuel : Nat) {before after : List Operation}
    (h : Changes before ∨ Changes after) :
    Changes (compactTag old new tag limit fuel before after) := by
  induction fuel generalizing before after with
  | zero => rwa [compactTag, changes_append, changes_reverse]
  | succ fuel ih =>
    cases after with
    | nil =>
      rw [compactTag, changes_reverse]
      exact h.resolve_right changes_nil
    | cons o after =>
      rw [compactTag]
      split
      next ho =>
        refine ih (Or.inl (changes_cons.2 (Or.inl ?_)))
        rw [tag_down, tag_up, ho]
        exact htag
      next =>
        rw [changes_cons, ← or_assoc, or_comm (a := Changes before), ← changes_cons] at h
        exact ih h

/-- Where nothing is changed there is nothing to move. -/
theorem compactTag_of_not_changes (htag : tag ≠ .equal) (fuel : Nat)
    {before after : List Operation} (h : ¬ Changes after) :
    compactTag old new tag limit fuel before after = before.reverse ++ after := by
  induction fuel generalizing before after with
  | zero => rfl
  | succ fuel ih =>
    cases after with
    | nil => rw [compactTag, List.append_nil]
    | cons o after =>
      rw [changes_cons, not_or, Classical.not_not] at h
      rw [compactTag, if_neg fun ho => htag (ho.symm.trans h.1), ih h.2, List.reverse_cons,
        List.append_assoc, List.singleton_append]

theorem changes_compact {operations : List Operation} (h : Changes operations) :
    Changes (compact old new operations) :=
  changes_compactTag (by decide) _ (Or.inr (changes_compactTag (by decide) _ (Or.inr h)))

theorem compact_of_not_changes {operations : List Operation} (h : ¬ Changes operations) :
    compact old new operations = operations := by
  unfold compact
  dsimp only
  rw [compactTag_of_not_changes (by decide) _ h, List.reverse_nil, List.nil_append,
    compactTag_of_not_changes (by decide) _ h, List.reverse_nil, List.nil_append]

end

end

/-! ## Hunks -/

/-- What is pending is a deletion and an insertion, as far as there is something. -/
structure Pending.Sound (p : Pending) : Prop where
  deleted : ∀ o ∈ p.deleted, o.tag = .delete
  inserted : ∀ o ∈ p.inserted, o.tag = .insert

theorem Pending.sound_empty : Pending.Sound .empty := ⟨nofun, nofun⟩

theorem Pending.tag_join {first : Option Operation} {o : Operation} {tag : Tag}
    (hfirst : ∀ o ∈ first, o.tag = tag) (ho : o.tag = tag) : (Pending.join first o).tag = tag := by
  cases first with
  | none => exact ho
  | some first => exact hfirst first rfl

theorem Pending.Sound.changes_change {p : Pending} (h : p.Sound)
    (hsome : p.deleted.isSome ∨ p.inserted.isSome) : Changes p.change := by
  unfold Pending.change
  split
  next => simp [Changes]
  next d hd _ => simp [Changes, h.deleted d hd]
  next i _ hi => simp [Changes, h.inserted i hi]
  next hd hi => simp [hd, hi] at hsome

theorem changes_replacements {operations : List Operation} {p : Pending} (hp : p.Sound)
    (h : Changes operations ∨ p.deleted.isSome ∨ p.inserted.isSome) :
    Changes (replacements p operations) := by
  induction operations generalizing p with
  | nil =>
    rw [replacements, changes_append]
    exact Or.inr (hp.changes_change (h.resolve_left changes_nil))
  | cons o rest ih =>
    rw [replacements]
    split
    next htag =>
      rw [changes_cons, or_assoc] at h
      rw [changes_append]
      rcases h with ho | hrest | hpending
      · exact absurd htag ho
      · exact Or.inr (ih ⟨nofun, nofun⟩ (Or.inl hrest))
      · exact Or.inl (hp.changes_change hpending)
    next htag =>
      rw [changes_append]
      refine Or.inr (ih ⟨?_, hp.inserted⟩ (Or.inr (Or.inl rfl)))
      rintro _ ⟨⟩
      exact Pending.tag_join hp.deleted htag
    next htag =>
      rw [changes_append]
      refine Or.inr (ih ⟨hp.deleted, ?_⟩ (Or.inr (Or.inr rfl)))
      rintro _ ⟨⟩
      exact Pending.tag_join hp.inserted htag
    next htag =>
      rw [changes_append, changes_cons, htag]
      exact Or.inr (Or.inl nofun)

theorem changes_trimFirst {n : Nat} {operations : List Operation} (h : Changes operations) :
    Changes (trimFirst n operations) := by
  cases operations with
  | nil => exact h
  | cons o rest =>
    rw [trimFirst, changes_cons]
    split
    next ho => exact Or.inr ((changes_cons.1 h).resolve_left fun hne => hne ho)
    next => exact changes_cons.1 h

theorem changes_trimLast {n : Nat} {operations : List Operation} (h : Changes operations) :
    Changes (trimLast n operations) := by
  induction operations with
  | nil => exact h
  | cons o rest ih =>
    cases rest with
    | nil =>
      have ho : o.tag ≠ .equal := (changes_cons.1 h).resolve_right changes_nil
      rw [trimLast, if_neg ho]
      exact h
    | cons next rest =>
      rw [trimLast, changes_cons]
      exact (changes_cons.1 h).imp_right ih
      exact nofun

/-- A hunk that holds a change is shown. -/
theorem splitHunks_ne_nil {n : Nat} {done operations : List Operation}
    (h : Changes done ∨ Changes operations) : splitHunks n done operations ≠ [] := by
  induction operations generalizing done with
  | nil =>
    obtain ⟨o, ho, htag⟩ := h.resolve_right changes_nil
    rw [splitHunks, if_neg]
    · exact nofun
    · simpa using ⟨o, ho, htag⟩
  | cons o rest ih =>
    rw [splitHunks]
    split
    next => exact nofun
    next =>
      rw [changes_cons, ← or_assoc, or_comm (a := Changes done), ← changes_cons] at h
      exact ih h

theorem hunks_ne_nil {n : Nat} {operations : List Operation} (h : Changes operations) :
    hunks n operations ≠ [] :=
  splitHunks_ne_nil (Or.inr
    (changes_trimLast (changes_trimFirst (changes_replacements Pending.sound_empty (Or.inl h)))))

/-- What is kept from the first element to the last is no hunk. -/
theorem hunks_keep (n length : Nat) : hunks n (keep 0 0 length) = [] := by
  unfold keep
  split
  next => rfl
  next =>
    -- The stretch is first cut to its end and then to the start of that.
    let kept := keepFirst n (keepLast n (.equal 0 0 length))
    have hlength : kept.oldLength = min n (length - (length - n)) := rfl
    have hshort : ¬ 2 * n < kept.oldLength := by omega
    show splitHunks n [] [kept] = []
    rw [splitHunks, if_neg (by simp [hshort])]
    rfl

/-! ## Texts -/

/-- The lines of a text hold all of it. -/
theorem flatten_lines (t : Text) : (lines t).flatten = t := by
  fun_induction lines t with
  | case1 => rfl
  | case2 rest ih => rw [List.flatten_cons, ih]; rfl
  | case3 c rest _ _ ih => rw [List.flatten_cons, ih]; rfl
  | case4 c rest _ _ hlines ih =>
    rw [hlines] at ih
    rw [← ih]
    rfl
  | case5 c rest _ _ line more hlines ih =>
    rw [hlines] at ih
    rw [← ih]
    rfl

theorem lines_injective {old new : Text} (h : lines old = lines new) : old = new := by
  rw [← flatten_lines old, h, flatten_lines]

theorem hunksOf_eq_nil_iff {old new : List Text} : hunksOf old new = [] ↔ old = new := by
  unfold hunksOf
  constructor
  · intro h
    refine Decidable.byContradiction fun hne => ?_
    exact hunks_ne_nil (changes_compact (changes_script hne)) h
  · rintro rfl
    rw [script_self, compact_of_not_changes (not_changes_keep _ _ _), hunks_keep]

/-- Two texts are the same if and only if their unified diff says nothing. -/
theorem unified_eq_nil_iff (path : Path) (old new : Text) :
    unified path old new = [] ↔ old = new := by
  have hlines : lines old = lines new ↔ old = new := ⟨lines_injective, fun h => h ▸ rfl⟩
  rw [← hlines, ← hunksOf_eq_nil_iff]
  unfold unified
  dsimp only
  split
  next h => exact iff_of_true rfl h
  next h => exact iff_of_false nofun h

end MustacheBuild.Diff
