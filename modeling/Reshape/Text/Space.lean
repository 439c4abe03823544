/-!
# White space

Three classes of blank characters and the trimming of a text at both ends by such a class. What a
trimmed text lost is blank, and what it kept neither starts nor ends with a blank.
-/
namespace Reshape.Text

/-- The Unicode property `White_Space`. -/
def isWhiteSpace (c : Char) : Bool :=
  let code := c.toNat
  (0x9 ≤ code && code ≤ 0xD) || code == 0x20 || code == 0x85 || code == 0xA0 || code == 0x1680 ||
    (0x2000 ≤ code && code ≤ 0x200A) || code == 0x2028 || code == 0x2029 || code == 0x202F ||
    code == 0x205F || code == 0x3000

/-- Blanks around the text of a data field: white space without the next-line control, and the byte
order mark. -/
def isTextSpace (c : Char) : Bool :=
  (isWhiteSpace c && c != '\x85') || c == '\uFEFF'

/-- Drop the blanks at the end of a list of characters. -/
def dropEnd (blank : Char → Bool) (cs : List Char) : List Char :=
  (cs.reverse.dropWhile blank).reverse

/-- Drop the blanks at both ends of a list of characters. -/
def trimList (blank : Char → Bool) (cs : List Char) : List Char :=
  dropEnd blank (cs.dropWhile blank)

/-- Drop the blanks at both ends of a text. -/
def trim (blank : Char → Bool) (text : String) : String :=
  String.ofList (trimList blank text.toList)

/-- Drop the blanks at the end of a text. -/
def trimEnd (blank : Char → Bool) (text : String) : String :=
  String.ofList (dropEnd blank text.toList)

theorem exists_dropWhile (blank : Char → Bool) (cs : List Char) :
    ∃ lost, cs = lost ++ cs.dropWhile blank ∧ ∀ c ∈ lost, blank c = true :=
  ⟨cs.takeWhile blank, List.takeWhile_append_dropWhile.symm,
    List.all_eq_true.1 List.all_takeWhile⟩

theorem exists_dropEnd (blank : Char → Bool) (cs : List Char) :
    ∃ lost, cs = dropEnd blank cs ++ lost ∧ ∀ c ∈ lost, blank c = true := by
  obtain ⟨lost, h, hb⟩ := exists_dropWhile blank cs.reverse
  refine ⟨lost.reverse, ?_, fun c hc => hb c (List.mem_reverse.1 hc)⟩
  rw [dropEnd, ← List.reverse_append, ← h, List.reverse_reverse]

/-- What trimming takes away is blank. -/
theorem exists_trimList (blank : Char → Bool) (cs : List Char) :
    ∃ front back, cs = front ++ trimList blank cs ++ back ∧
      (∀ c ∈ front, blank c = true) ∧ ∀ c ∈ back, blank c = true := by
  obtain ⟨front, hf, hfb⟩ := exists_dropWhile blank cs
  obtain ⟨back, hb, hbb⟩ := exists_dropEnd blank (cs.dropWhile blank)
  refine ⟨front, back, ?_, hfb, hbb⟩
  rw [trimList, List.append_assoc, ← hb, ← hf]

theorem blank_head_dropWhile (blank : Char → Bool) (cs : List Char) (c : Char)
    (h : (cs.dropWhile blank).head? = some c) : blank c = false := by
  have hd := List.head?_dropWhile_not blank cs
  rw [h] at hd
  simpa using hd

/-- Nothing is kept of a list exactly if all of it is blank. -/
theorem trimList_eq_nil_iff (blank : Char → Bool) (cs : List Char) :
    trimList blank cs = [] ↔ ∀ c ∈ cs, blank c = true := by
  constructor
  · intro h
    obtain ⟨front, back, hcs, hf, hb⟩ := exists_trimList blank cs
    rw [h, List.append_nil] at hcs
    rw [hcs, List.forall_mem_append]
    exact ⟨hf, hb⟩
  · intro h
    obtain ⟨lost, hl, -⟩ := exists_dropWhile blank cs
    cases hw : cs.dropWhile blank with
    | nil => rw [trimList, hw]; rfl
    | cons c rest =>
      -- the first character that is kept would not be blank
      have hc : blank c = false := blank_head_dropWhile blank cs c (by rw [hw]; rfl)
      have hm : c ∈ cs := by
        rw [hl, hw]
        exact List.mem_append_right lost List.mem_cons_self
      rw [h c hm] at hc
      cases hc

theorem blank_getLast_dropEnd (blank : Char → Bool) (cs : List Char) (c : Char)
    (h : (dropEnd blank cs).getLast? = some c) : blank c = false := by
  rw [dropEnd, List.getLast?_reverse] at h
  exact blank_head_dropWhile blank cs.reverse c h

/-- A trimmed text does not end with a blank. -/
theorem blank_getLast_trimList (blank : Char → Bool) (cs : List Char) (c : Char)
    (h : (trimList blank cs).getLast? = some c) : blank c = false :=
  blank_getLast_dropEnd blank _ c h

/-- A trimmed text does not begin with a blank. -/
theorem blank_head_trimList (blank : Char → Bool) (cs : List Char) (c : Char)
    (h : (trimList blank cs).head? = some c) : blank c = false := by
  obtain ⟨back, hb, -⟩ := exists_dropEnd blank (cs.dropWhile blank)
  apply blank_head_dropWhile blank cs
  rw [hb, List.head?_append]
  rw [trimList] at h
  simp [h]

theorem dropWhile_append_solid {blank : Char → Bool} {front kept : List Char} (back : List Char)
    (hf : ∀ c ∈ front, blank c = true) (hne : kept ≠ [])
    (first : ∀ c, kept.head? = some c → blank c = false) :
    (front ++ (kept ++ back)).dropWhile blank = kept ++ back := by
  obtain ⟨c, rest, rfl⟩ := List.exists_cons_of_ne_nil hne
  have hc : ¬ blank c = true := by simp [first c rfl]
  rw [List.dropWhile_append_of_pos hf, List.cons_append, List.dropWhile_cons_of_neg hc]

/-- What neither begins nor ends with a blank is what is left when the blanks around it go. -/
theorem trimList_append {blank : Char → Bool} {front kept back : List Char}
    (hf : ∀ c ∈ front, blank c = true) (hb : ∀ c ∈ back, blank c = true)
    (first : ∀ c, kept.head? = some c → blank c = false)
    (last : ∀ c, kept.getLast? = some c → blank c = false) :
    trimList blank (front ++ (kept ++ back)) = kept := by
  by_cases hne : kept = []
  · rw [hne, List.nil_append, trimList_eq_nil_iff, List.forall_mem_append]
    exact ⟨hf, hb⟩
  · have hd : (back.reverse ++ (kept.reverse ++ [])).dropWhile blank = kept.reverse ++ [] :=
      dropWhile_append_solid [] (fun c hc => hb c (List.mem_reverse.mp hc)) (by simpa using hne)
        fun c hc => last c (by rwa [List.head?_reverse] at hc)
    rw [trimList, dropWhile_append_solid back hf hne first, dropEnd, List.reverse_append,
      ← List.append_nil kept.reverse, hd, List.append_nil, List.reverse_reverse]

@[simp] theorem toList_trim (blank : Char → Bool) (text : String) :
    (trim blank text).toList = trimList blank text.toList := by
  simp [trim]

/-- Nothing is kept of a text exactly if all of it is blank. -/
theorem trim_eq_empty_iff {blank : Char → Bool} {text : String} :
    trim blank text = "" ↔ ∀ c ∈ text.toList, blank c = true := by
  rw [← trimList_eq_nil_iff, ← toList_trim, String.toList_eq_nil_iff]

end Reshape.Text
