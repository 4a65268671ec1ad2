import MustacheBuild.Proofs.Path.Directory

/-!
Paths that lie above another one, and the names that are passed on the way along a path.
-/
namespace MustacheBuild
namespace Path

variable {p q : Path}

/-- The path leads to a directory on the way along another one: its components are the first of the
other's, and not all of them. -/
def IsAbove (q p : Path) : Prop := ∃ c more, p.components = q.components ++ c :: more

/-- Text without a slash that is put behind a path is put behind its last piece. -/
theorem pieces_append_text (t : Text) {suffix : Text} (h : '/' ∉ suffix) :
    ∃ before last, pieces ⟨t⟩ = before ++ [last] ∧
      pieces ⟨t ++ suffix⟩ = before ++ [last ++ suffix] := by
  induction t with
  | nil => exact ⟨[], [], rfl, by simp [pieces, Text.pieces_of_notMem h]⟩
  | cons c t ih =>
    obtain ⟨before, last, hbefore, hafter⟩ := ih
    unfold pieces at hbefore hafter ⊢
    by_cases hc : c = '/'
    · exact ⟨[] :: before, last, by simp [Text.pieces, hc, hbefore],
        by simp [Text.pieces, hc, hafter]⟩
    · simp only [List.cons_append, Text.pieces, if_neg hc]
      -- The character joins the first piece, which may be the last one.
      cases before with
      | nil =>
        obtain ⟨hfirst, hmore⟩ := List.cons.inj hbefore
        obtain ⟨hfirst', hmore'⟩ := List.cons.inj hafter
        exact ⟨[], c :: last, by simp [hfirst, hmore], by simp [hfirst', hmore']⟩
      | cons first before =>
        obtain ⟨hfirst, hmore⟩ := List.cons.inj hbefore
        obtain ⟨hfirst', hmore'⟩ := List.cons.inj hafter
        exact ⟨(c :: first) :: before, last, by simp [hfirst, hmore], by simp [hfirst', hmore']⟩

end Path
end MustacheBuild
