import AnoPki.Foundation.Text

/-! # Operations on texts

The parts of Go's `strings` package that the models use. -/
namespace Foundation.Text

open List

/-- The white space of Unicode. -/
def isSpace (c : Char) : Bool :=
  c.toNat ∈ [0x09, 0x0a, 0x0b, 0x0c, 0x0d, 0x20, 0x85, 0xa0, 0x1680, 0x2028, 0x2029, 0x202f, 0x205f,
    0x3000] || (0x2000 ≤ c.toNat && c.toNat ≤ 0x200a)

/-- A text without the characters of a kind at its two ends. -/
def trim (dropped : Char → Bool) (text : Text) : Text :=
  (text.dropWhile dropped).rdropWhile dropped

def trimSpace (text : Text) : Text := text.trim isSpace

/-- Lower case, rune by rune. ASCII letters are mapped here; `lower` gives the lower case of the
other runes. -/
def toLower (lower : Char → Char) (text : Text) : Text :=
  text.map fun c => if c.toNat < 128 then c.toLower else lower c

/-- The part before the first occurrence of a character and the part after it. -/
def cut (separator : Char) : Text → Option (Text × Text)
  | [] => none
  | c :: rest =>
    if c = separator then some ([], rest)
    else (cut separator rest).map fun (front, back) => (c :: front, back)

/-- Whether two texts are the same up to the case of their runes. ASCII letters are compared here;
`folds` says which other runes are the same. -/
def equalFold (folds : Char → Char → Bool) : Text → Text → Bool
  | [], [] => true
  | c :: text, d :: other =>
    (c == d || (if c.toNat < 128 ∧ d.toNat < 128 then c.toLower == d.toLower else folds c d)) &&
      equalFold folds text other
  | _, _ => false

/-- The loop of `ofUtf8`: at most as many runes as there are bytes. -/
def ofUtf8Loop : Nat → List UInt8 → Text
  | 0, _ => []
  | _ + 1, [] => []
  | count + 1, byte :: bytes =>
    match (ByteArray.mk (byte :: bytes).toArray).utf8DecodeChar? 0 with
    | some c => c :: ofUtf8Loop count ((byte :: bytes).drop c.utf8Size)
    | none => Char.ofNat 0xfffd :: ofUtf8Loop count bytes

/-- The runes of a string; a byte that starts none counts as the replacement character. -/
def ofUtf8 (bytes : List UInt8) : Text := ofUtf8Loop bytes.length bytes

/-- Texts in ascending order. -/
def sorted (texts : List Text) : List Text := texts.insertionSort (· ≤ ·)

/-- The part before the first separator holds none. -/
theorem cut_append {separator front} (absent : separator ∉ front) (back : Text) :
    cut separator (front ++ separator :: back) = some (front, back) := by
  induction front with
  | nil => simp [cut]
  | cons c front ih =>
    rw [mem_cons, not_or] at absent
    rw [cons_append, cut, if_neg (Ne.symm absent.1), ih absent.2]
    rfl

theorem cut_eq_some {separator text front back}
    (found : cut separator text = some (front, back)) : text = front ++ separator :: back := by
  induction text generalizing front with
  | nil => cases found
  | cons c text ih =>
    rw [cut] at found
    split at found
    case isTrue here =>
      cases Option.some.inj found
      rw [here, nil_append]
    case isFalse =>
      obtain ⟨⟨rest, _⟩, later, same⟩ := Option.map_eq_some_iff.mp found
      cases same
      rw [ih later, cons_append]

theorem subset_of_mem_splitOn {separator} {text piece : Text}
    (member : piece ∈ text.splitOn separator) : piece ⊆ text := by
  obtain ⟨number, here⟩ := mem_iff_getElem?.mp member
  rw [← @List.getElem?_intersperse_two_mul _ _ [separator]] at here
  rw [← @intercalate_splitOn _ text _ _ separator]
  exact (sublist_flatten_of_mem (mem_of_getElem? here)).subset

theorem mem_intercalate {separator : Text} {texts c}
    (inside : c ∈ separator.intercalate texts) : c ∈ separator ∨ ∃ text ∈ texts, c ∈ text := by
  induction texts with
  | nil => cases inside
  | cons text texts ih =>
    cases texts with
    | nil => exact .inr ⟨text, mem_cons_self, by simpa [intercalate] using inside⟩
    | cons next texts =>
      rw [intercalate_cons_cons, mem_append, mem_append] at inside
      rcases inside with (here | here) | later
      · exact .inr ⟨text, mem_cons_self, here⟩
      · exact .inl here
      · rcases ih later with here | ⟨other, member, here⟩
        · exact .inl here
        · exact .inr ⟨other, mem_cons_of_mem _ member, here⟩

theorem trim_subset (dropped : Char → Bool) (text : Text) : text.trim dropped ⊆ text :=
  fun _ inside => (dropWhile_sublist dropped).subset (( rdropWhile_prefix dropped _).subset inside)

/-- A text that starts with a character that is kept is not trimmed away. -/
theorem trim_cons_ne_nil {dropped c} (kept : dropped c = false) (text : Text) :
    trim dropped (c :: text) ≠ [] := by
  intro gone
  rw [trim, dropWhile_cons_of_neg (by simp [kept]), rdropWhile_eq_nil_iff] at gone
  simpa [kept] using gone c mem_cons_self

/-- What is left after trimming does not start with a dropped character. -/
private theorem dropWhile_trim (dropped : Char → Bool) (text : Text) :
    (text.trim dropped).dropWhile dropped = text.trim dropped := by
  cases shape : text.trim dropped with
  | nil => rfl
  | cons c rest =>
    obtain ⟨tail, whole⟩ : text.trim dropped <+: text.dropWhile dropped := rdropWhile_prefix _ _
    have first := head?_dropWhile_not dropped text
    rw [← whole, shape] at first
    simp only [cons_append, head?_cons] at first
    rw [dropWhile_cons_of_neg (by simpa using first)]

@[simp] theorem trim_trim (dropped : Char → Bool) (text : Text) :
    (text.trim dropped).trim dropped = text.trim dropped := by
  rw [trim, dropWhile_trim]
  exact rdropWhile_idempotent dropped (text.dropWhile dropped)

/-- What is known of a map of the runes outside ASCII to lower case: it gives runes that are in
lower case, and a blank exactly for a blank. -/
structure LowerCase (lower : Char → Char) : Prop where
  lowered : ∀ c, 128 ≤ c.toNat → toLower lower [lower c] = [lower c]
  blank : ∀ c, 128 ≤ c.toNat → isSpace (lower c) = isSpace c

section LowerCase

variable {lower : Char → Char} (cases : LowerCase lower)

private theorem ascii_toLower : ∀ n : Fin 128,
    (Char.ofNat n).toLower.toNat < 128 ∧ (Char.ofNat n).toLower.toLower = (Char.ofNat n).toLower ∧
      isSpace (Char.ofNat n).toLower = isSpace (Char.ofNat n) := by
  decide +kernel

include cases

theorem LowerCase.rune (c : Char) : ∃ d, toLower lower [c] = [d] ∧ toLower lower [d] = [d] ∧
    isSpace d = isSpace c := by
  by_cases ascii : c.toNat < 128
  · obtain ⟨small, stays, blank⟩ := ascii_toLower ⟨c.toNat, ascii⟩
    simp only [Char.ofNat_toNat] at small stays blank
    exact ⟨c.toLower, by simp [toLower, ascii], by simp [toLower, small, stays], blank⟩
  · have outside := Nat.le_of_not_lt ascii
    exact ⟨lower c, by simp [toLower, ascii], cases.lowered c outside, cases.blank c outside⟩

theorem toLower_toLower (text : Text) :
    (text.toLower lower).toLower lower = text.toLower lower := by
  rw [toLower, toLower, map_map, map_inj_left]
  intro c _
  obtain ⟨d, lowered, stays, -⟩ := cases.rune c
  have here : (if c.toNat < 128 then c.toLower else lower c) = d := singleton_inj.mp lowered
  have again : (if d.toNat < 128 then d.toLower else lower d) = d := singleton_inj.mp stays
  rw [Function.comp_apply, here, again]

theorem trimSpace_toLower (text : Text) :
    (text.toLower lower).trimSpace = text.trimSpace.toLower lower := by
  have blank : isSpace ∘ (fun c : Char => if c.toNat < 128 then c.toLower else lower c) =
      isSpace := by
    funext c
    obtain ⟨d, lowered, -, same⟩ := cases.rune c
    have here : (if c.toNat < 128 then c.toLower else lower c) = d := singleton_inj.mp lowered
    rw [Function.comp_apply, here, same]
  simp only [trimSpace, trim, toLower, dropWhile_map, rdropWhile, ← map_reverse, blank]

end LowerCase

theorem perm_of_sorted_eq {left right} (same : sorted left = sorted right) : left.Perm right := by
  have perm := perm_insertionSort (fun a b : Text => a ≤ b)
  calc
    left.Perm (sorted left) := (perm left).symm
    _ = sorted right := same
    List.Perm _ right := perm right

end Foundation.Text
