import AnoPki.Foundation.Text

/-! # Paths of URLs

A path is a text of bytes, one character for each. An escape stands for one byte. Escapes do not
reach over a separator, so a path can be taken apart before or after they are taken out; only after,
an escaped separator is one. -/
namespace Foundation

open List Option

/-- The text without its escapes; `none` when an escape is not one. -/
def unescape : Text → Option Text
  | [] => some []
  | c :: rest =>
    if c = '%' then
      match rest with
      | high :: low :: rest => do
        let high ← Text.hexValue high
        let low ← Text.hexValue low
        let rest ← unescape rest
        return Char.ofNat (16 * high + low) :: rest
      | _ => none
    else (unescape rest).map (c :: ·)

theorem hexValue_slash : Text.hexValue '/' = none := by decide

theorem unescape_plain {c} (other : c ≠ '%') (rest : Text) :
    unescape (c :: rest) = (unescape rest).map (c :: ·) := by
  rw [unescape.eq_def]
  simp only [if_neg other]

theorem unescape_escape (high low : Char) (rest : Text) : unescape ('%' :: high :: low :: rest) =
    (Text.hexValue high).bind fun high => (Text.hexValue low).bind fun low =>
      (unescape rest).map (Char.ofNat (16 * high + low) :: ·) := by
  rw [unescape.eq_def]
  simp only [if_true]
  cases Text.hexValue high <;> cases Text.hexValue low <;> cases unescape rest <;> rfl

/-- Escapes do not reach over a separator. -/
theorem unescape_append_slash (front back : Text) : unescape (front ++ '/' :: back) =
    (unescape front).bind fun front => (unescape back).map fun back => front ++ '/' :: back := by
  fun_induction unescape front with
  | case1 =>
    rw [nil_append, unescape_plain (by decide)]
    rfl
  | case2 high low rest ih =>
    rw [cons_append, cons_append, cons_append, unescape_escape, ih]
    cases Text.hexValue high <;> cases Text.hexValue low <;> cases unescape rest <;>
      cases unescape back <;> rfl
  | case3 rest short =>
    match rest with
    | [] =>
      cases back with
      | nil => rfl
      | cons first back =>
        rw [cons_append, nil_append, unescape_escape, hexValue_slash]
        rfl
    | [digit] =>
      rw [cons_append, cons_append, nil_append, unescape_escape, hexValue_slash]
      cases Text.hexValue digit <;> rfl
    | high :: low :: rest => exact absurd rfl (short high low rest)
  | case4 c rest other ih =>
    rw [cons_append, unescape_plain other, ih]
    cases unescape rest <;> cases unescape back <;> rfl

/-- The absolute path of the segments. -/
def joinPath (segments : List Text) : Text := segments.flatMap ('/' :: ·)

theorem joinPath_cons (first : Text) (rest : List Text) :
    joinPath (first :: rest) = '/' :: (first ++ joinPath rest) := flatMap_cons

theorem joinPath_splitOn (path : Text) : joinPath (path.splitOn '/') = '/' :: path := by
  have joined : ∀ segments : List Text, segments ≠ [] →
      joinPath segments = '/' :: ['/'].intercalate segments := by
    intro segments nonempty
    induction segments with
    | nil => exact absurd rfl nonempty
    | cons first rest ih =>
      cases rest with
      | nil => simp [joinPath]
      | cons second rest =>
        rw [joinPath_cons, ih (cons_ne_nil second rest)]
        simp [intercalate_cons_of_ne_nil]
  rw [joined _ (splitOn_ne_nil '/' path), intercalate_splitOn]

theorem unescape_append_joinPath (front : Text) (segments : List Text) :
    unescape (front ++ joinPath segments) =
      (unescape front).bind fun front => (unescape (joinPath segments)).map (front ++ ·) := by
  cases segments with
  | nil =>
    have empty : joinPath [] = [] := rfl
    rw [empty, append_nil]
    cases unescape front <;> simp [unescape]
  | cons first rest =>
    rw [joinPath_cons, unescape_append_slash, unescape_plain (by decide)]
    cases unescape front <;> cases unescape (first ++ joinPath rest) <;> rfl

/-- An escape lies within one segment: the path without its escapes is the path of the segments
without theirs. -/
theorem unescape_joinPath {segments path} (decoded : unescape (joinPath segments) = some path) :
    ∃ plain, List.Forall₂ (fun segment plain => unescape segment = some plain) segments plain ∧
      path = joinPath plain := by
  induction segments generalizing path with
  | nil => exact ⟨[], .nil, (Option.some.inj decoded).symm⟩
  | cons first rest ih =>
    rw [joinPath_cons, unescape_plain (by decide), unescape_append_joinPath] at decoded
    obtain ⟨tail, joined, rfl⟩ := map_eq_some_iff.mp decoded
    obtain ⟨front, plainFront, appended⟩ := bind_eq_some_iff.mp joined
    obtain ⟨back, plainBack, rfl⟩ := map_eq_some_iff.mp appended
    obtain ⟨plain, segmentwise, rfl⟩ := ih plainBack
    exact ⟨front :: plain, .cons plainFront segmentwise, (joinPath_cons front plain).symm⟩

end Foundation
