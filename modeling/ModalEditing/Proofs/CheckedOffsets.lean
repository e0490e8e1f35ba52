import ModalEditing.Proofs.WordSpans

/-! Offsets in machine words. Here every sum has to stay below `2 ^ 64` and no difference may go
below zero, else there is no result; only where a cut is meant, a difference stops at zero and a
sum at the greatest word. Lines and words are found all the same, wherever the text is shorter than
that. -/

namespace ModalEditing

namespace Checked

open Text

def limit : Nat := 2 ^ 64

def add? (m n : Nat) : Option Nat := if m + n < limit then some (m + n) else none

def sub? (m n : Nat) : Option Nat := if n ≤ m then some (m - n) else none

/-- The sum, or the greatest word. -/
def addCut (m n : Nat) : Nat := min (m + n) (limit - 1)

variable {t : Text} {m n p q size : Nat}

theorem add?_eq (h : m + n < limit) : add? m n = some (m + n) := if_pos h

theorem sub?_eq (h : n ≤ m) : sub? m n = some (m - n) := if_pos h

theorem eq_add_of_add? (h : add? m n = some q) : q = m + n := by
  unfold add? at h
  split at h
  · exact (Option.some.inj h).symm
  · contradiction

theorem eq_sub_of_sub? (h : sub? m n = some q) : q = m - n ∧ n ≤ m := by
  unfold sub? at h
  split at h
  · next le => exact ⟨(Option.some.inj h).symm, le⟩
  · contradiction

def forward? (size : Nat) (test? : Nat → Option Bool) (p : Nat) : Option Nat :=
  if p < size then
    match test? p with
    | some true =>
      match _h : add? p 1 with
      | some q => forward? size test? q
      | none => none
    | some false => some p
    | none => none
  else some p
termination_by size - p
decreasing_by
  have := eq_add_of_add? _h
  omega

theorem forward?_step {test? : Nat → Option Bool} (inside : p < size) (fits : size < limit)
    (test : test? p = some true) : forward? size test? p = forward? size test? (p + 1) := by
  rw [forward?, if_pos inside, test]
  simp only
  split
  · next q sum => rw [eq_add_of_add? sum]
  · next none_left =>
    rw [add?_eq (by omega)] at none_left
    contradiction

theorem forward?_eq {test? : Nat → Option Bool} {f : Nat → Nat} (passes : Nat → Bool)
    (fits : size < limit) (tested : ∀ p < size, test? p = some (passes p))
    (step : ∀ p < size, f p = if passes p then f (p + 1) else p) (stop : ∀ p, size ≤ p → f p = p)
    (p : Nat) : forward? size test? p = some (f p) := by
  induction left : size - p using Nat.strongRecOn generalizing p with
  | ind k ih =>
    by_cases inside : p < size
    · rw [step p inside]
      cases test : passes p with
      | false => simp [forward?, inside, tested, test]
      | true =>
        rw [forward?_step inside fits (test ▸ tested p inside), if_pos rfl]
        exact ih (size - (p + 1)) (by omega) (p + 1) rfl
    · rw [forward?, if_neg inside, stop p (Nat.le_of_not_lt inside)]

def backward? (test? : Nat → Option Bool) (p : Nat) : Option Nat :=
  if 0 < p then
    match test? p with
    | some true =>
      match _h : sub? p 1 with
      | some q => backward? test? q
      | none => none
    | some false => some p
    | none => none
  else some p
termination_by p
decreasing_by
  have := eq_sub_of_sub? _h
  omega

theorem backward?_step {test? : Nat → Option Bool} (test : test? (p + 1) = some true) :
    backward? test? (p + 1) = backward? test? p := by
  rw [backward?, if_pos (Nat.succ_pos p), test]
  simp only
  split
  · next q difference => rw [(eq_sub_of_sub? difference).1, Nat.add_sub_cancel]
  · next none_left =>
    rw [sub?_eq (Nat.le_add_left 1 p)] at none_left
    contradiction

theorem backward?_eq {test? : Nat → Option Bool} {f : Nat → Nat} (passes : Nat → Bool)
    (tested : ∀ p, test? (p + 1) = some (passes (p + 1))) (zero : f 0 = 0)
    (step : ∀ p, f (p + 1) = if passes (p + 1) then f p else p + 1) (p : Nat) :
    backward? test? p = some (f p) := by
  induction p with
  | zero => rw [backward?, if_neg (Nat.lt_irrefl 0), zero]
  | succ p ih =>
    rw [step]
    cases test : passes (p + 1) with
    | false => simp [backward?, tested, test]
    | true => rw [backward?_step (test ▸ tested p), ih, if_pos rfl]

def repeat? (next? : Nat → Option Nat) : Nat → Nat → Option Nat
  | 0, p => some p
  | n + 1, p => do
    let q ← next? p
    if q = p then some p else repeat? next? n q

theorem repeat?_eq {next? : Nat → Option Nat} {next : Nat → Nat}
    (step : ∀ p ≤ size, next? p = some (next p) ∧ next p ≤ size) (n : Nat) (h : p ≤ size) :
    repeat? next? n p = some (stepMany next n p) := by
  induction n generalizing p with
  | zero => rfl
  | succ n ih =>
    obtain ⟨stepped, inside⟩ := step p h
    rw [repeat?, stepMany, stepped]
    simp only [Option.bind_eq_bind, Option.bind_some]
    split
    · rfl
    · exact ih inside

def walk? (next? : Nat → Option (Option Nat)) : Nat → Nat → Option Nat
  | 0, p => some p
  | n + 1, p => do
    match ← next? p with
    | some q => walk? next? n q
    | none => some p

theorem walk?_eq {next? : Nat → Option (Option Nat)} {next : Nat → Option Nat}
    (step : ∀ p, next? p = some (next p)) (n p : Nat) :
    walk? next? n p = some (walkLines next n p) := by
  induction n generalizing p with
  | zero => rfl
  | succ n ih =>
    rw [walk?, walkLines, step, Option.bind_eq_bind, Option.bind_some]
    cases next p with
    | none => rfl
    | some q => exact ih q

def scanStart? (t : Text) (p blanks : Nat) : Option LineStart :=
  if 0 < p then
    match _h : sub? p 1 with
    | some q =>
      if t[q]? = some '\n' then some { offset := p, leadingBlanks := blanks }
      else
        match if t[q]?.any isBlank then add? blanks 1 else some 0 with
        | some blanks => scanStart? t q blanks
        | none => none
    | none => none
  else some { offset := p, leadingBlanks := blanks }
termination_by p
decreasing_by
  have := eq_sub_of_sub? _h
  omega

theorem scanStart?_eq {blanks : Nat} (fits : p + blanks < limit) :
    scanStart? t p blanks = some (t.startBelow p blanks) := by
  -- the offset falls as the count rises, so their sum stays in bounds
  induction p generalizing blanks with
  | zero =>
    rw [scanStart?, if_neg (Nat.lt_irrefl 0)]
    rfl
  | succ p ih =>
    rw [scanStart?, if_pos (Nat.succ_pos p), startBelow]
    split
    · next q difference =>
      obtain rfl : q = p := (eq_sub_of_sub? difference).1
      split
      · rfl
      · have counted : (if t[q]?.any isBlank then add? blanks 1 else some 0) =
            some (if t[q]?.any isBlank then blanks + 1 else 0) := by
          split
          · exact add?_eq (by omega)
          · rfl
        rw [counted]
        refine ih ?_
        split <;> omega
    · next none_left =>
      rw [sub?_eq (Nat.le_add_left 1 p)] at none_left
      contradiction

def lineStart? (t : Text) (p : Nat) : Option Nat :=
  (scanStart? t (min p t.size) 0).map LineStart.offset

theorem lineStart?_eq (fits : t.size < limit) (p : Nat) :
    lineStart? t p = some (t.lineStart p) := by
  rw [lineStart?, scanStart?_eq (by omega)]
  rfl

def lineStop? (t : Text) (p : Nat) : Option Nat :=
  if h : p < t.size then
    match _h : add? p 1 with
    | some q => if t[p] = '\n' then some q else lineStop? t q
    | none => none
  else some t.size
termination_by t.size - p
decreasing_by
  have := eq_add_of_add? _h
  omega

theorem lineStop?_step (inside : p < t.size) (fits : t.size < limit) :
    lineStop? t p = if t[p] = '\n' then some (p + 1) else lineStop? t (p + 1) := by
  rw [lineStop?, dif_pos inside]
  split
  · next q sum => rw [eq_add_of_add? sum]
  · next none_left =>
    rw [add?_eq (by omega)] at none_left
    contradiction

theorem lineStop?_eq (fits : t.size < limit) (p : Nat) : lineStop? t p = some (t.lineStop p) := by
  fun_induction lineStop t p with
  | case1 p inside newline =>
    rw [lineStop?_step inside fits, if_pos newline]
  | case2 p inside other ih =>
    rw [lineStop?_step inside fits, if_neg other]
    exact ih
  | case3 p outside => rw [lineStop?, dif_neg outside]

def contentStop? (t : Text) (p : Nat) : Option Nat := do
  let stop ← lineStop? t p
  if p < stop then
    let last ← sub? stop 1
    if t[last]? = some '\n' then sub? stop 1 else some stop
  else some stop

theorem contentStop?_eq (fits : t.size < limit) (p : Nat) :
    contentStop? t p = some (t.contentStop p) := by
  rw [contentStop?, lineStop?_eq fits, contentStop]
  simp only [Option.bind_eq_bind, Option.bind_some]
  by_cases past : p < t.lineStop p
  · rw [if_pos past, sub?_eq (by omega), Option.bind_some]
    by_cases newline : t[t.lineStop p - 1]? = some '\n'
    · rw [if_pos newline, if_pos ⟨past, newline⟩]
    · rw [if_neg newline, if_neg fun h => newline h.2]
  · rw [if_neg past, if_neg fun h => past h.1]

def firstNonBlank? (t : Text) (p : Nat) : Option Nat := do
  let stop ← forward? t.size (fun x => some (t[x]?.any isBlank)) p
  let width ← sub? stop p
  add? p width

theorem firstNonBlank?_eq (fits : t.size < limit) (h : p ≤ t.size) :
    firstNonBlank? t p = some (t.firstNonBlank p) := by
  have le : p ≤ t.firstNonBlank p := Nat.le_add_right p _
  have inside := t.firstNonBlank_le_size h
  have scanned :
      forward? t.size (fun x => some (t[x]?.any isBlank)) p = some (t.firstNonBlank p) := by
    refine forward?_eq _ fits (fun _ _ => rfl) (fun x hx => ?_) (fun x hx => ?_) p
    · simp only [Array.getElem?_eq_getElem hx, Option.any_some]
      split
      · next blank => exact firstNonBlank_of_blank hx blank
      · next other => exact firstNonBlank_of_other hx other
    · rw [firstNonBlank, blanksFrom, dif_neg (Nat.not_lt.2 hx), Nat.add_zero]
  rw [firstNonBlank?, scanned]
  simp only [Option.bind_eq_bind, Option.bind_some]
  rw [sub?_eq le, Option.bind_some, add?_eq (by omega), Nat.add_sub_cancel' le]

def lineBefore? (t : Text) (p : Nat) : Option (Option Nat) :=
  if 0 < p then do
    let q ← sub? p 1
    let start ← lineStart? t q
    return some start
  else some none

theorem lineBefore?_eq (fits : t.size < limit) (p : Nat) :
    lineBefore? t p = some (t.lineBefore? p) := by
  unfold lineBefore? Text.lineBefore?
  by_cases first : p = 0
  · rw [if_neg (by omega), if_pos first]
  · rw [if_pos (by omega), if_neg first, sub?_eq (by omega)]
    simp [lineStart?_eq fits]

def lineAfter? (t : Text) (p : Nat) : Option (Option Nat) := do
  let stop ← lineStop? t p
  return if stop < t.size then some stop else none

theorem lineAfter?_eq (fits : t.size < limit) (p : Nat) :
    lineAfter? t p = some (t.lineAfter? p) := by
  rw [lineAfter?, lineStop?_eq fits]
  rfl

def lastOnLine? (t : Text) (p : Nat) : Option Nat := do
  let stop ← contentStop? t p
  if p < stop then sub? stop 1 else some p

theorem lastOnLine?_eq (fits : t.size < limit) (p : Nat) :
    lastOnLine? t p = some (t.lastOnLine p) := by
  rw [lastOnLine?, contentStop?_eq fits, lastOnLine]
  simp only [Option.bind_eq_bind, Option.bind_some]
  split
  · exact sub?_eq (by omega)
  · rfl

/-- The column as a word. The greatest one stands for the last character. -/
def columnWord : Column → Nat
  | .offset n => n
  | .last => limit - 1

def placeOnLine? (t : Text) (p : Nat) (c : Column) : Option Nat := do
  let last ← lastOnLine? t p
  return min (addCut p (columnWord c)) last

theorem placeOnLine?_eq (fits : t.size < limit) (h : p ≤ t.size) (c : Column) :
    placeOnLine? t p c = some (t.placeOnLine p c) := by
  have inside := lastOnLine_le_size h
  rw [placeOnLine?, lastOnLine?_eq fits]
  simp only [Option.bind_eq_bind, Option.bind_some, pure, Option.some.injEq]
  cases c with
  | offset n =>
    rw [placeOnLine, columnWord, addCut]
    omega
  | last =>
    rw [placeOnLine, columnWord, addCut]
    omega

def lastLine? (t : Text) : Option Nat := do
  let start ← lineStart? t t.size
  if start = t.size ∧ t.size > 0 then
    let last ← sub? t.size 1
    lineStart? t last
  else some start

theorem lastLine?_eq (fits : t.size < limit) : lastLine? t = some t.lastLine := by
  rw [lastLine?, lineStart?_eq fits, lastLine]
  simp only [Option.bind_eq_bind, Option.bind_some]
  split
  · rw [sub?_eq (by omega), Option.bind_some, lineStart?_eq fits]
  · rfl

def lineNumbered? (t : Text) (n : Nat) : Option Nat := walk? (lineAfter? t) (n - 1) 0

theorem lineNumbered?_eq (fits : t.size < limit) (n : Nat) :
    lineNumbered? t n = some (t.lineNumbered n) :=
  walk?_eq (lineAfter?_eq fits) (n - 1) 0

def isEmptyLine? (t : Text) (p : Nat) : Option Bool :=
  if t[p]? = some '\n' then
    if p = 0 then some true else do
      let q ← sub? p 1
      return t[q]? == some '\n'
  else some false

theorem isEmptyLine?_eq (t : Text) (p : Nat) : isEmptyLine? t p = some (t.isEmptyLine p) := by
  unfold isEmptyLine? isEmptyLine
  by_cases newline : t[p]? = some '\n'
  · by_cases first : p = 0
    · subst first
      simp [newline]
    · simp [newline, first, sub?_eq (Nat.one_le_iff_ne_zero.2 first)]
  · simp [newline]

def isSkipped? (t : Text) (p : Nat) : Option Bool :=
  if t.classAt? p = some .space then (isEmptyLine? t p).map (!·) else some false

theorem isSkipped?_eq (t : Text) (p : Nat) :
    isSkipped? t p = some (decide (t.classAt? p = some .space ∧ t.isEmptyLine p = false)) := by
  unfold isSkipped?
  rw [isEmptyLine?_eq]
  split
  · next space => cases t.isEmptyLine p <;> simp [space]
  · next other => simp [other]

def skipSpace? (t : Text) (p : Nat) : Option Nat := forward? t.size (isSkipped? t) p

theorem skipSpace?_eq (fits : t.size < limit) (p : Nat) :
    skipSpace? t p = some (t.skipSpace p) := by
  refine forward?_eq _ fits (fun x _ => isSkipped?_eq t x) (fun x hx => ?_) (fun x hx => ?_) p
  · rw [skipSpace, dif_pos hx]
    simp only [classAt?_eq_some_iff hx, decide_eq_true_eq]
  · rw [skipSpace, dif_neg (Nat.not_lt.2 hx)]

def runStop? (t : Text) (k : CharClass) (p : Nat) : Option Nat :=
  forward? t.size (fun x => some (t.classAt? x = some k)) p

theorem runStop?_eq (fits : t.size < limit) (k : CharClass) (p : Nat) :
    runStop? t k p = some (t.runStop k p) := by
  refine forward?_eq _ fits (fun _ _ => rfl) (fun x hx => ?_) (fun x hx => ?_) p
  · rw [runStop, dif_pos hx]
    simp only [classAt?_eq_some_iff hx, decide_eq_true_eq]
  · rw [runStop, dif_neg (Nat.not_lt.2 hx)]

def nextWordStart? (t : Text) (p : Nat) : Option Nat := do
  let past ← match t.classAt? p with
    | some .space | none => do if ← isEmptyLine? t p then add? p 1 else some p
    | some k => runStop? t k p
  skipSpace? t past

theorem nextWordStart?_eq (fits : t.size + 1 < limit) (h : p ≤ t.size) :
    nextWordStart? t p = some (t.nextWordStart p) := by
  have fits' : t.size < limit := by omega
  unfold nextWordStart? nextWordStart
  cases class_ : t.classAt? p with
  | none =>
    have empty : t.isEmptyLine p = false := by
      rw [Bool.eq_false_iff]
      intro empty
      rw [classAt?_of_isEmptyLine empty] at class_
      contradiction
    have ends : ¬ p < t.size := fun inside => by
      rw [classAt?_of_lt inside] at class_
      contradiction
    simp only [isEmptyLine?_eq, empty, Option.bind_eq_bind, Option.bind_some, skipSpace?_eq fits',
      Bool.false_eq_true, if_false]
    rw [skipSpace, dif_neg ends]
  | some k =>
    cases k with
    | space =>
      simp only [isEmptyLine?_eq, Option.bind_eq_bind, Option.bind_some]
      split
      · rw [add?_eq (by omega), Option.bind_some, skipSpace?_eq fits']
      · exact skipSpace?_eq fits' p
    | word => simp [runStop?_eq fits', skipSpace?_eq fits']
    | punctuation => simp [runStop?_eq fits', skipSpace?_eq fits']

def skipSpaceBack? (t : Text) (p : Nat) : Option Nat := backward? (isSkipped? t) p

theorem skipSpaceBack?_eq (t : Text) (p : Nat) :
    skipSpaceBack? t p = some (t.skipSpaceBack p) := by
  refine backward?_eq
    (fun x => decide (t.classAt? x = some .space ∧ t.isEmptyLine x = false))
    (fun x => isSkipped?_eq t (x + 1)) rfl (fun x => ?_) p
  rw [skipSpaceBack]
  simp only [decide_eq_true_eq]

def runStart? (t : Text) (k : CharClass) (p : Nat) : Option Nat :=
  backward? (fun x => do
    let y ← sub? x 1
    return t.classAt? y = some k) p

theorem runStart?_eq (t : Text) (k : CharClass) (p : Nat) :
    runStart? t k p = some (t.runStart k p) := by
  refine backward?_eq (fun x => decide (t.classAt? (x - 1) = some k)) (fun x => ?_) rfl
    (fun x => ?_) p
  · simp [sub?_eq (Nat.le_add_left 1 x)]
  · simp [runStart]

def prevWordStart? (t : Text) (p : Nat) : Option Nat :=
  if p = 0 then some 0 else do
    let before ← sub? p 1
    let q ← skipSpaceBack? t before
    match t.classAt? q with
    | some .space | none => some q
    | some k => runStart? t k q

theorem prevWordStart?_eq (t : Text) (p : Nat) : prevWordStart? t p = some (t.prevWordStart p) := by
  by_cases first : p = 0
  · subst first
    exact congrArg some (Nat.le_zero.1 (t.prevWordStart_le 0)).symm
  · rw [prevWordStart?, if_neg first, sub?_eq (Nat.one_le_iff_ne_zero.2 first), prevWordStart]
    simp only [Option.bind_eq_bind, Option.bind_some, skipSpaceBack?_eq]
    cases t.classAt? (t.skipSpaceBack (p - 1)) with
    | none => rfl
    | some k =>
      cases k with
      | space => rfl
      | word => exact runStart?_eq t .word _
      | punctuation => exact runStart?_eq t .punctuation _

def nextWordEnd? (t : Text) (p : Nat) : Option Nat := do
  let after ← add? p 1
  let q ← runStop? t .space after
  if t.size ≤ q then some p
  else
    match t.classAt? q with
    | some k =>
      forward? t.size (fun x => do
        let y ← add? x 1
        return t.classAt? y = some k) q
    | none => some q

theorem nextWordEnd?_eq (fits : t.size + 1 < limit) (h : p ≤ t.size) :
    nextWordEnd? t p = some (t.nextWordEnd p) := by
  have fits' : t.size < limit := by omega
  rw [nextWordEnd?, add?_eq (by omega)]
  simp only [Option.bind_eq_bind, Option.bind_some, runStop?_eq fits', nextWordEnd]
  generalize t.runStop .space (p + 1) = q
  split
  · next beyond => rw [classAt?_eq_none beyond]
  · next within =>
    have inside : q < t.size := Nat.lt_of_not_le within
    rw [classAt?_of_lt inside]
    simp only
    generalize hk : CharClass.of t[q] = k
    have first : t.runStop k q = t.runStop k (q + 1) := by
      rw [runStop, dif_pos inside, if_pos hk]
    rw [first]
    refine forward?_eq (f := fun x => t.runStop k (x + 1) - 1)
      (fun x => decide (t.classAt? (x + 1) = some k)) fits' (fun x hx => ?_) (fun x hx => ?_)
      (fun x hx => ?_) q
    · simp [add?_eq (show x + 1 < limit by omega)]
    · by_cases more : x + 1 < t.size
      · rw [runStop, dif_pos more]
        simp only [classAt?_eq_some_iff more, decide_eq_true_eq]
        split
        · rfl
        · exact Nat.add_sub_cancel x 1
      · have none_after : t.classAt? (x + 1) = none := classAt?_eq_none (Nat.not_lt.1 more)
        rw [runStop, dif_neg more]
        simp [none_after]
    · rw [runStop, dif_neg (by omega), Nat.add_sub_cancel]

end Checked

end ModalEditing
