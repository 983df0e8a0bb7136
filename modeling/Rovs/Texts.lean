import Mathlib.Data.List.TakeWhile

/-!
# Texts

Searching, splitting and trimming of texts, as the string functions of the standard library do
it on the characters of a text.  A row is a text of labelled values, each label ending in a
separator; the search for a name with the separator behind it stops at the first label that the
name is a suffix of.
-/

namespace Rovs.Texts

/-! ### Joining -/

section Joining

variable {groups : List (List Char)}

/-- The separator stands in a row of more than one group. -/
theorem mem_intercalate {sep : Char} (hlen : 2 ≤ groups.length) :
    sep ∈ [sep].intercalate groups := by
  cases groups with
  | nil => cases hlen
  | cons first groups =>
    cases groups with
    | nil => simp at hlen
    | cons second groups => simp [List.intercalate_cons_cons]

/-- What stands in a row of groups stands in the separator or in a group. -/
theorem mem_of_mem_intercalate {sep : List Char} {c : Char} (h : c ∈ sep.intercalate groups) :
    c ∈ sep ∨ ∃ group ∈ groups, c ∈ group := by
  induction groups with
  | nil => simp at h
  | cons first groups ih =>
    cases groups with
    | nil =>
      rw [List.intercalate_singleton] at h
      exact .inr ⟨first, List.mem_cons_self, h⟩
    | cons second groups =>
      rw [List.intercalate_cons_cons, List.mem_append, List.mem_append] at h
      rcases h with (h | h) | h
      · exact .inr ⟨first, List.mem_cons_self, h⟩
      · exact .inl h
      · rcases ih h with h | ⟨group, hgroup, hc⟩
        · exact .inl h
        · exact .inr ⟨group, List.mem_cons_of_mem _ hgroup, hc⟩

theorem intercalate_map_toList {α : Type} (sep : String) (text : α → String) (xs : List α) :
    (sep.intercalate (xs.map text)).toList =
      sep.toList.intercalate (xs.map fun x => (text x).toList) := by
  rw [String.toList_intercalate, List.map_map]
  rfl

/-- Where two texts with a separator in the middle are the same, one begins with what stands in
    front of the other's separator. -/
theorem append_sep_eq_iff {sep a b c d : List Char} :
    a ++ (sep ++ b) = c ++ (sep ++ d) ↔
      (∃ t, c = a ++ t ∧ sep ++ b = t ++ (sep ++ d)) ∨
        ∃ t, a = c ++ t ∧ sep ++ d = t ++ (sep ++ b) := by
  rw [List.append_eq_append_iff]

/-- A separator that is also found further on: behind itself, or over a border of itself. -/
theorem sep_append_eq_iff {sep t b d : List Char} :
    sep ++ b = t ++ (sep ++ d) ↔
      (∃ x, t = sep ++ x ∧ b = x ++ (sep ++ d)) ∨
        ∃ u v, sep = t ++ u ∧ sep = u ++ v ∧ b = v ++ d := by
  constructor
  case mp =>
    intro h
    rcases List.append_eq_append_iff.mp h with ⟨x, ht, hb⟩ | ⟨u, hsep, hd⟩
    · exact .inl ⟨x, ht, hb⟩
    · right
      rcases List.append_eq_append_iff.mp hd with ⟨e, hu, hd'⟩ | ⟨v, hsep', hb⟩
      · have hlen := congrArg List.length hsep
        rw [hu, List.length_append, List.length_append] at hlen
        have he : e = [] := List.length_eq_zero_iff.mp (by omega)
        subst he
        rw [List.append_nil] at hu
        exact ⟨u, [], hsep, by rw [hu, List.append_nil], by simpa using hd'.symm⟩
      · exact ⟨u, v, hsep, hsep', hb⟩
  case mpr =>
    rintro (⟨x, rfl, rfl⟩ | ⟨u, v, hsep, hsep', rfl⟩)
    · simp
    · calc
        sep ++ (v ++ d) = (t ++ u) ++ (v ++ d) := by rw [← hsep]
        _ = t ++ ((u ++ v) ++ d) := by simp only [List.append_assoc]
        _ = t ++ (sep ++ d) := by rw [← hsep']

end Joining

/-- The characters of a short text, checked one by one. -/
theorem forall_mem_of_all {p : Char → Prop} [DecidablePred p] {s : List Char}
    (h : s.all (fun c => decide (p c)) = true) : ∀ c ∈ s, p c := by
  simpa using h

/-! ### Searching -/

/-- `str::find`, as a number of characters. -/
def find (pat : List Char) : List Char → Option Nat
  | [] => if pat = [] then some 0 else none
  | c :: s => if pat.isPrefixOf (c :: s) then some 0 else (find pat s).map (· + 1)

/-- What stands behind the first occurrence. -/
def after (pat s : List Char) : Option (List Char) :=
  (find pat s).map fun start => s.drop (start + pat.length)

section Search

variable {pat name seg rest s : List Char} {sep : Char}

theorem after_nil (hpat : pat ≠ []) : after pat [] = none := by
  rw [after, find, if_neg hpat]
  rfl

theorem after_cons (c : Char) :
    after pat (c :: s) =
      if pat <+: c :: s then some ((c :: s).drop pat.length) else after pat s := by
  simp only [after, find, List.isPrefixOf_iff_prefix]
  split
  case isTrue => rw [Option.map_some, Nat.zero_add]
  case isFalse =>
    cases find pat s with
    | none => rfl
    | some i => rw [Option.map_some, Option.map_some, Option.map_some, Nat.add_right_comm,
        List.drop_succ_cons]

theorem after_of_not_mem (hs : sep ∉ s) : after (name ++ [sep]) s = none := by
  induction s with
  | nil => exact after_nil (by simp)
  | cons c s ih =>
    have hstart : ¬ name ++ [sep] <+: c :: s := by
      intro hstart
      exact hs (hstart.subset (by simp))
    rw [after_cons, if_neg hstart]
    exact ih fun hmem => hs (List.mem_cons_of_mem _ hmem)

/-- A name with its separator behind it begins a text exactly if it is what stands in front of
    the first separator. -/
theorem key_prefix_iff (rest : List Char) (hname : sep ∉ name) (hseg : sep ∉ seg) :
    name ++ [sep] <+: seg ++ sep :: rest ↔ name = seg := by
  constructor
  case mp =>
    induction name generalizing seg with
    | nil =>
      intro h
      cases seg with
      | nil => rfl
      | cons c seg =>
        rw [List.nil_append, List.cons_append, List.cons_prefix_cons] at h
        exact absurd (h.1 ▸ List.mem_cons_self) hseg
    | cons d name ih =>
      intro h
      cases seg with
      | nil =>
        rw [List.cons_append, List.nil_append, List.cons_prefix_cons] at h
        exact absurd (h.1 ▸ List.mem_cons_self) hname
      | cons c seg =>
        rw [List.cons_append, List.cons_append, List.cons_prefix_cons] at h
        rw [h.1, ih (fun hmem => hname (List.mem_cons_of_mem _ hmem))
          (fun hmem => hseg (List.mem_cons_of_mem _ hmem)) h.2]
  case mpr =>
    rintro rfl
    exact ⟨rest, by simp⟩

/-- The first separator of a text ends the search, or the search goes on behind it. -/
theorem after_append_cons (hname : sep ∉ name) (hseg : sep ∉ seg) :
    after (name ++ [sep]) (seg ++ sep :: rest) =
      if name <:+ seg then some rest else after (name ++ [sep]) rest := by
  induction seg with
  | nil =>
    rw [List.nil_append, after_cons]
    have hstart := key_prefix_iff rest hname hseg
    rw [List.nil_append] at hstart
    by_cases hnil : name = []
    case pos =>
      subst hnil
      simp
    case neg =>
      rw [if_neg (fun h => hnil (hstart.mp h)), if_neg (fun h => hnil (List.suffix_nil.mp h))]
  | cons c seg ih =>
    have hstart := key_prefix_iff rest hname hseg
    rw [List.cons_append] at hstart
    rw [List.cons_append, after_cons]
    by_cases heq : name = c :: seg
    case pos =>
      rw [if_pos (hstart.mpr heq), if_pos (List.suffix_cons_iff.mpr (.inl heq)), heq]
      simp
    case neg =>
      rw [if_neg (fun h => heq (hstart.mp h)),
        ih fun hmem => hseg (List.mem_cons_of_mem _ hmem)]
      simp only [List.suffix_cons_iff, heq, false_or]

end Search

/-! ### Rows of labelled values -/

/-- A value behind its label; the label is a name behind a delimiter. -/
structure Item where
  delim : Char
  name : List Char
  value : List Char
deriving DecidableEq, Repr

def Item.text (sep : Char) (item : Item) : List Char :=
  item.delim :: item.name ++ sep :: item.value

def rowText (sep : Char) (items : List Item) : List Char := items.flatMap (Item.text sep)

/-- The first item that the name is a suffix of the name of, and the items behind it. -/
def lookup (name : List Char) : List Item → Option (Item × List Item)
  | [] => none
  | item :: items => if name <:+ item.name then some (item, items) else lookup name items

/-- The separator stands in the text of an item behind its label only, and the delimiter is not
    part of the name that is looked for. -/
structure Item.Separated (sep : Char) (name : List Char) (item : Item) : Prop where
  delim_ne : item.delim ≠ sep
  name_free : sep ∉ item.name
  value_free : sep ∉ item.value
  delim_free : item.delim ∉ name

section Rows

variable {name front : List Char} {sep : Char} {items : List Item} {item : Item}

@[simp] theorem rowText_nil : rowText sep [] = [] := rfl

@[simp] theorem rowText_cons :
    rowText sep (item :: items) =
      item.delim :: (item.name ++ sep :: (item.value ++ rowText sep items)) := by
  simp [rowText, Item.text]

@[simp] theorem rowText_append (xs ys : List Item) :
    rowText sep (xs ++ ys) = rowText sep xs ++ rowText sep ys :=
  List.flatMap_append

theorem lookup_self (delim : Char) (value : List Char) :
    lookup name (⟨delim, name, value⟩ :: items) = some (⟨delim, name, value⟩, items) :=
  if_pos (List.suffix_refl name)

theorem lookup_other {delim : Char} {name' value : List Char} (h : ¬ name <:+ name') :
    lookup name (⟨delim, name', value⟩ :: items) = lookup name items :=
  if_neg h

theorem lookup_append {xs ys : List Item} (h : ∀ item ∈ xs, ¬ name <:+ item.name) :
    lookup name (xs ++ ys) = lookup name ys := by
  induction xs with
  | nil => rfl
  | cons x xs ih =>
    rw [List.cons_append, lookup, if_neg (h x List.mem_cons_self)]
    exact ih fun item hitem => h item (List.mem_cons_of_mem _ hitem)

/-- A name without the delimiter is a suffix of a label exactly if it is one of the name. -/
theorem suffix_label_iff {front name' : List Char} {d : Char} (hd : d ∉ name) :
    name <:+ front ++ d :: name' ↔ name <:+ name' := by
  constructor
  case mp =>
    rintro ⟨t, ht⟩
    rcases List.append_eq_append_iff.mp ht with ⟨a, -, hname⟩ | ⟨a, -, hlabel⟩
    · exact absurd (by rw [hname]; simp) hd
    · cases a with
      | nil => exact absurd (by rw [← List.nil_append name, ← hlabel]; simp) hd
      | cons c a =>
        rw [List.cons_append, List.cons.injEq] at hlabel
        exact ⟨a, hlabel.2.symm⟩
  case mpr =>
    intro h
    exact h.trans ⟨front ++ [d], by simp⟩

/-- Behind a name and its separator stands the value of the item that is looked up. -/
theorem after_row (hname : sep ∉ name) (hfront : sep ∉ front)
    (hitems : ∀ item ∈ items, item.Separated sep name) :
    after (name ++ [sep]) (front ++ rowText sep items) =
      (lookup name items).map fun found => found.1.value ++ rowText sep found.2 := by
  induction items generalizing front with
  | nil =>
    rw [rowText_nil, List.append_nil]
    exact after_of_not_mem hfront
  | cons item items ih =>
    have hitem := hitems item List.mem_cons_self
    have hseg : sep ∉ front ++ item.delim :: item.name := by
      simp only [List.mem_append, List.mem_cons, not_or]
      exact ⟨hfront, hitem.delim_ne.symm, hitem.name_free⟩
    have hsplit : front ++ rowText sep (item :: items) =
        (front ++ item.delim :: item.name) ++ sep :: (item.value ++ rowText sep items) := by
      simp
    have hlabel : name <:+ front ++ item.delim :: item.name ↔ name <:+ item.name :=
      suffix_label_iff hitem.delim_free
    rw [hsplit, after_append_cons hname hseg, lookup,
      ih hitem.value_free fun i hi => hitems i (List.mem_cons_of_mem _ hi)]
    by_cases hsuffix : name <:+ item.name
    case pos => rw [if_pos (hlabel.mpr hsuffix), if_pos hsuffix, Option.map_some]
    case neg => rw [if_neg (fun h => hsuffix (hlabel.mp h)), if_neg hsuffix]

end Rows

/-! ### Lines and blanks -/

/-- `char::is_whitespace`: the code points of the property `White_Space`. -/
def isWhitespace (c : Char) : Bool :=
  let n := c.toNat
  (9 ≤ n && n ≤ 13) || n == 0x20 || n == 0x85 || n == 0xa0 || n == 0x1680
    || (0x2000 ≤ n && n ≤ 0x200a) || n == 0x2028 || n == 0x2029 || n == 0x202f || n == 0x205f
    || n == 0x3000

/-- `str::trim`. -/
def trim (s : List Char) : List Char :=
  ((s.dropWhile isWhitespace).reverse.dropWhile isWhitespace).reverse

/-- A line without the carriage return of its line end. -/
def chompCr (line : List Char) : List Char :=
  if line.getLast? = some '\r' then line.dropLast else line

/-- `str::lines`: the pieces between newlines, without an empty last one. -/
def lines (s : List Char) : List (List Char) :=
  let pieces := s.splitOn '\n'
  pieces.dropLast.map chompCr ++ pieces.getLast?.toList.filter (· ≠ [])

section Blanks

variable {s blanks : List Char}

theorem trim_blanks_append (h : ∀ c ∈ blanks, isWhitespace c) : trim (blanks ++ s) = trim s := by
  rw [trim, List.dropWhile_append_of_pos h]
  rfl

theorem trim_append_blanks (h : ∀ c ∈ blanks, isWhitespace c) : trim (s ++ blanks) = trim s := by
  have hreverse : ∀ c ∈ blanks.reverse, isWhitespace c :=
    fun c hc => h c (List.mem_reverse.mp hc)
  rw [trim, trim, List.dropWhile_append]
  split
  case isTrue hempty =>
    rw [List.isEmpty_iff] at hempty
    rw [hempty, List.dropWhile_eq_nil_iff.mpr h]
  case isFalse => rw [List.reverse_append, List.dropWhile_append_of_pos hreverse]

theorem trim_blanks (h : ∀ c ∈ blanks, isWhitespace c) : trim blanks = [] := by
  rw [trim, List.dropWhile_eq_nil_iff.mpr h]
  rfl

theorem trim_of_no_blank (h : ∀ c ∈ s, isWhitespace c = false) : trim s = s := by
  have hself : ∀ t : List Char, (∀ c ∈ t, isWhitespace c = false) →
      t.dropWhile isWhitespace = t := by
    intro t ht
    cases t with
    | nil => rfl
    | cons c t => exact List.dropWhile_cons_of_neg (by simp [ht c List.mem_cons_self])
  rw [trim, hself s h, hself s.reverse fun c hc => h c (List.mem_reverse.mp hc),
    List.reverse_reverse]

theorem trim_chompCr (line : List Char) : trim (chompCr line) = trim line := by
  unfold chompCr
  split
  case isTrue hlast =>
    obtain ⟨front, rfl⟩ := List.getLast?_eq_some_iff.mp hlast
    rw [List.dropLast_concat, trim_append_blanks]
    exact forall_mem_of_all (by decide)
  case isFalse => rfl

/-- Trimmed and without empty ones, the lines are the pieces between newlines. -/
theorem trimmed_lines (s : List Char) :
    ((lines s).map trim).filter (· ≠ []) = ((s.splitOn '\n').map trim).filter (· ≠ []) := by
  obtain ⟨last, hlast⟩ := Option.ne_none_iff_exists'.mp
    (mt List.getLast?_eq_none_iff.mp (List.splitOn_ne_nil '\n' s))
  obtain ⟨front, hpieces⟩ := List.getLast?_eq_some_iff.mp hlast
  have hfront : (front.map chompCr).map trim = front.map trim := by
    rw [List.map_map]
    exact List.map_congr_left fun line _ => trim_chompCr line
  simp only [lines, hpieces, List.dropLast_concat, List.getLast?_concat, List.map_append,
    List.filter_append, hfront, Option.toList_some]
  congr 1
  by_cases hnil : last = []
  case pos =>
    subst hnil
    rfl
  case neg => rw [List.filter_cons_of_pos (by simpa using hnil), List.filter_nil]

end Blanks

end Rovs.Texts
