import Mathlib.Data.List.TakeWhile

/-!
Text functions of the language, on lists of characters.

`twoWords` is the match of `/(\S+)\s+(\S+)/`: the first two words of a text,
whatever whitespace stands before, between and behind them. `removeFirst` is
`replace(pattern, '')` with a string pattern: it takes the first occurrence of
the pattern out, wherever it is. `removeFirst_word` says when the second reads
the word that the first reads. `extname` is the extension of a path.
-/

namespace CoupangEats.Base

/-- The characters that `\s` matches. -/
def isSpace (c : Char) : Bool :=
  c ∈ ['\t', '\n', '\x0b', '\x0c', '\r', ' ', '\u00a0', '\u1680', '\u2028', '\u2029', '\u202f',
    '\u205f', '\u3000', '\ufeff'] || ('\u2000' ≤ c && c ≤ '\u200a')

/-- The characters that `\S` matches. -/
def isWord (c : Char) : Bool := !isSpace c

/-- A text without the whitespace at both ends. -/
def trim (s : List Char) : List Char := ((s.dropWhile isSpace).reverse.dropWhile isSpace).reverse

/-- The length of a text in the 16-bit units that `length` counts. -/
def codeUnits (s : List Char) : Nat := s.length + s.countP fun c => 0x10000 ≤ c.toNat

/-- The first two words of a text. -/
def twoWords (s : List Char) : Option (List Char × List Char) :=
  let start := s.dropWhile isSpace
  let value := ((start.dropWhile isWord).dropWhile isSpace).takeWhile isWord
  if value = [] then none else some (start.takeWhile isWord, value)

/-- A text without the first occurrence of a pattern. -/
def removeFirst (pattern : List Char) : List Char → List Char
  | [] => []
  | c :: s =>
      if pattern.isPrefixOf (c :: s) then (c :: s).drop pattern.length
      else c :: removeFirst pattern s

/-- How the two words stand in a text. -/
theorem twoWords_eq_some {s w v : List Char} (words : twoWords s = some (w, v)) :
    ∃ lead gap rest, s = lead ++ (w ++ (gap ++ (v ++ rest))) ∧ (∀ c ∈ w, isWord c = true) ∧
      (∀ c ∈ gap, isSpace c = true) ∧ (∀ c ∈ v, isWord c = true) ∧ gap ≠ [] ∧ v ≠ [] := by
  simp only [twoWords] at words
  set start := s.dropWhile isSpace with hstart
  set mid := start.dropWhile isWord with hmid
  set tail := mid.dropWhile isSpace with htail
  split_ifs at words with empty
  simp only [Option.some.injEq, Prod.mk.injEq] at words
  obtain ⟨rfl, rfl⟩ := words
  refine ⟨s.takeWhile isSpace, mid.takeWhile isSpace, tail.dropWhile isWord, ?_,
    fun c mem => List.mem_takeWhile_imp mem, fun c mem => List.mem_takeWhile_imp mem,
    fun c mem => List.mem_takeWhile_imp mem, fun none => ?_, empty⟩
  · simp only [List.takeWhile_append_dropWhile, htail, hmid, hstart]
  · -- Without whitespace behind the first word there is no second one.
    cases h : mid with
    | nil => simp [htail, h] at empty
    | cons c rest =>
        have word : isWord c = false := by
          have := List.head_dropWhile_not isWord (l := start) (by rw [← hmid, h]; simp)
          simpa [← hmid, h] using this
        rw [isWord, Bool.not_eq_false'] at word
        simp [h, word] at none

/-- The first word of a text that starts with it. -/
theorem takeWhile_word {w rest : List Char} {gap : Char} (word : ∀ c ∈ w, isWord c = true)
    (space : isSpace gap = true) : (w ++ gap :: rest).takeWhile isWord = w := by
  rw [List.takeWhile_append_of_pos word]
  simp [isWord, space]

/-- A text of two words of which the second follows directly is read so. -/
theorem twoWords_append {w v : List Char} {gap : Char} (word : ∀ c ∈ w, isWord c = true)
    (nonempty : w ≠ []) (space : isSpace gap = true) (value : ∀ c ∈ v, isWord c = true)
    (some_value : v ≠ []) : twoWords (w ++ gap :: v) = some (w, v) := by
  obtain ⟨c, w', rfl⟩ := List.exists_cons_of_ne_nil nonempty
  obtain ⟨d, v', rfl⟩ := List.exists_cons_of_ne_nil some_value
  have hc : isSpace c = false := by
    simpa [isWord] using word c List.mem_cons_self
  have hd : isSpace d = false := by
    simpa [isWord] using value d List.mem_cons_self
  have start : (c :: w' ++ gap :: d :: v').dropWhile isSpace = c :: w' ++ gap :: d :: v' := by
    simp [hc]
  have all : (d :: v').takeWhile isWord = d :: v' := List.takeWhile_eq_self_iff.mpr value
  simp only [twoWords, start, takeWhile_word word space, List.dropWhile_append_of_pos word]
  simp only [isWord, space, List.dropWhile_cons, hd, Bool.not_true, if_true, Bool.false_eq_true,
    if_false]
  rw [all]
  simp

/-- The last part of a path, slashes at the end apart. -/
def basename (path : List Char) : List Char :=
  ((path.reverse.dropWhile fun c => c = '/').takeWhile fun c => c ≠ '/').reverse

/-- The extension of a path: its last part from the last dot on, unless the part starts
with that dot or is "..". -/
def extname (path : List Char) : List Char :=
  let part := basename path
  let ext := (part.reverse.takeWhile fun c => c ≠ '.').reverse
  if '.' ∈ part ∧ part ≠ '.' :: ext ∧ part ≠ ['.', '.'] then '.' :: ext else []

theorem slash_not_mem_extname (path : List Char) : '/' ∉ extname path := by
  intro mem
  rw [extname] at mem
  split_ifs at mem with dotted
  · rcases List.mem_cons.mp mem with dot | mem
    · exact absurd dot (by decide)
    · have inner := (List.takeWhile_sublist _).subset (List.mem_reverse.mp mem)
      rw [List.mem_reverse, basename, List.mem_reverse] at inner
      have other := List.mem_takeWhile_imp inner
      simp at other
  · cases mem

theorem removeFirst_cases (pattern s : List Char) :
    removeFirst pattern s = s ∨
      ∃ a b, s = a ++ (pattern ++ b) ∧ removeFirst pattern s = a ++ b := by
  induction s with
  | nil => exact .inl rfl
  | cons c s ih =>
      unfold removeFirst
      split
      · rename_i here
        obtain ⟨b, same⟩ := List.isPrefixOf_iff_prefix.mp here
        exact .inr ⟨[], b, by simp [same], by simp [← same]⟩
      · rcases ih with same | ⟨a, b, same, removed⟩
        · exact .inl (by rw [same])
        · exact .inr ⟨c :: a, b, by simp [← same], by simp [removed]⟩

@[simp] theorem removeFirst_append (pattern s : List Char) (nonempty : pattern ≠ []) :
    removeFirst pattern (pattern ++ s) = s := by
  obtain ⟨c, rest, rfl⟩ := List.exists_cons_of_ne_nil nonempty
  rw [List.cons_append, removeFirst, ← List.cons_append, if_pos (by simp)]
  simp

/-- Taking the name and one whitespace character out of a text leaves the second
of its two words only when the text is just that. -/
theorem removeFirst_word {name s w v : List Char} {gap : Char}
    (plain : ∀ c ∈ name, isWord c = true) (space : isSpace gap = true)
    (words : twoWords s = some (w, v)) (same : w.length = name.length) :
    removeFirst (name ++ [gap]) s = v ↔ s = name ++ gap :: v := by
  obtain ⟨lead, gap', rest, rfl, word, spaces, value, some_gap, -⟩ := twoWords_eq_some words
  have positive := List.length_pos_iff.mpr some_gap
  constructor
  · intro removed
    rcases removeFirst_cases (name ++ [gap]) (lead ++ (w ++ (gap' ++ (v ++ rest)))) with
      kept | ⟨a, b, split, taken⟩
    · -- The text is longer than its second word.
      have lengths := congrArg List.length (kept.symm.trans removed)
      simp only [List.length_append] at lengths
      omega
    · have lengths := congrArg List.length split
      have whole := removed.symm.trans taken
      have lengths' := congrArg List.length whole
      simp only [List.length_append, List.length_cons, List.length_nil] at lengths lengths'
      obtain rfl : lead = [] := List.length_eq_zero_iff.mp (by omega)
      obtain rfl : rest = [] := List.length_eq_zero_iff.mp (by omega)
      obtain ⟨g, rfl⟩ : ∃ g, gap' = [g] := List.length_eq_one_iff.mp (by omega)
      have before : ∀ c ∈ a ++ name, isWord c = true := by
        intro c mem
        rcases List.mem_append.mp mem with early | named
        · exact value c (by rw [whole]; exact List.mem_append_left _ early)
        · exact plain c named
      -- Both sides have the same first word.
      have first : w = a ++ name := by
        have starts := congrArg (List.takeWhile isWord) split
        simp only [List.nil_append, List.append_nil, List.singleton_append] at starts
        rwa [takeWhile_word word (spaces g (List.mem_singleton_self g)), List.append_assoc,
          ← List.append_assoc a, List.singleton_append, takeWhile_word before space] at starts
      have first_length := congrArg List.length first
      rw [List.length_append] at first_length
      obtain rfl : a = [] := List.length_eq_zero_iff.mp (by omega)
      rw [List.nil_append] at whole
      rw [split, ← whole]
      simp
  · intro text
    rw [text, show name ++ gap :: v = (name ++ [gap]) ++ v by simp,
      removeFirst_append _ _ (by simp)]

end CoupangEats.Base
