import CaretSql.Proofs.Request.Reach

/-! Which statement a caret runs: the one in its region if there is one. Right behind a delimiter
that closes nothing it is the one that follows, and elsewhere the one before, if that was closed on
the caret's line. Every slice of the text that is looked at on the way is in range. -/

namespace CaretSql

namespace Request

variable {d : Document} {x : Lexemes} {start stop c i : Nat} {delimiters : List Nat}
  {region : Nat × Nat} {before : Option (Nat × Nat)}

theorem ofRegionBefore?_start (d : Document) (x : Lexemes) (c : Nat)
    (before : Option (Nat × Nat)) :
    ofRegionBefore? d x c c before = before.bind fun region => ofRegion? d x region.1 region.2 := by
  have hnil : d.slice c c = [] := by simp [Document.slice]
  rw [ofRegionBefore?, hnil]
  rfl

/-- A caret at the start of a region runs the statement in it or else the one before. -/
theorem underCaret_start (h : Ends d c delimiters) :
    underCaret d x c before c delimiters =
      ((regions d c delimiters)[0]?.bind fun region => ofRegion? d x region.1 region.2).or
        (before.bind fun region => ofRegion? d x region.1 region.2) := by
  cases delimiters with
  | nil => rw [underCaret, if_pos h.inText, ofRegionBefore?_start]; rfl
  | cons stop more =>
    rw [underCaret, if_pos (h.bounds stop List.mem_cons_self).1, ofRegionBefore?_start]
    rfl

/-- The walk through the regions ends in the one that the caret is in, or in the one behind it. -/
theorem underCaret_reached (h : Ends d start delimiters) (hc : c ≤ d.length)
    (hreached : Reached (regions d start delimiters) c i region) :
    underCaret d x c before start delimiters = (ofRegion? d x region.1 region.2).or
      (if c = region.2 + 1 then
        (regions d start delimiters)[i + 1]?.bind fun region => ofRegion? d x region.1 region.2
      else ofRegionBefore? d x c region.1
        (if i = 0 then before else (regions d start delimiters)[i - 1]?)) := by
  induction delimiters generalizing start before i with
  | nil =>
    obtain ⟨rfl, hget⟩ : i = 0 ∧ (start, d.length) = region := by
      simpa [regions, List.getElem?_singleton] using hreached.get
    subst hget
    rw [underCaret, if_pos hc, if_neg (by simp; omega), if_pos rfl]
  | cons stop more ih =>
    cases i with
    | zero =>
      obtain rfl : (start, stop) = region := by simpa [regions] using hreached.get
      rw [underCaret]
      dsimp only
      by_cases hle : c ≤ stop
      · rw [if_pos hle, if_neg (by omega), if_pos rfl]
      · have hreach := hreached.le
        obtain rfl : c = stop + 1 := by omega
        have hor (a b : Option Request) : a.or (b.or a) = a.or b := by
          cases a <;> simp
        rw [if_neg hle, if_pos rfl, if_pos rfl, underCaret_start h.onward]
        exact hor _ _
    | succ i =>
      have hpassed : stop + 1 < c := hreached.first 0 (Nat.succ_pos i) (start, stop) rfl
      have hrest := hreached.tail
      rw [underCaret]
      dsimp only
      rw [if_neg (by omega), if_neg (by omega), ih h.onward hrest, if_neg (Nat.succ_ne_zero i)]
      cases i <;> rfl

instance : Decidable (Live d x start stop) := decidable_of_iff _ live_iff.symm

def trimmed (d : Document) (region : Nat × Nat) : Request :=
  let origin := d.positionOf (leadEnd d region.1 region.2)
  ⟨Character.trim (d.slice region.1 region.2), origin.row, origin.column⟩

def statement? (d : Document) (region : Nat × Nat) : Option Request :=
  if Live d (Lexemes.ofText d.chars) region.1 region.2 then some (trimmed d region) else none

theorem ofRegion?_eq_statement? (h : region ∈ d.regions) :
    ofRegion? d (Lexemes.ofText d.chars) region.1 region.2 = statement? d region := by
  have hstop := ((ends_delimiters d).region_bounds h).2.2
  unfold statement?
  split
  · next hlive =>
    have hr := ofRegion?_of_live hlive
    have hquery := query_ofRegion? hstop hr
    rw [hr]
    exact congrArg some (congrArg (fun query => Request.mk query _ _) hquery)
  · next hdead => exact if_neg fun hany => hdead (live_iff.mpr hany)

theorem bind_ofRegion? (d : Document) (k : Nat) :
    (d.regions[k]?.bind fun region => ofRegion? d (Lexemes.ofText d.chars) region.1 region.2) =
      d.regions[k]?.bind (statement? d) := by
  cases hget : d.regions[k]? with
  | none => rfl
  | some region => exact ofRegion?_eq_statement? (List.mem_of_getElem? hget)

/-- The caret runs the statement of its region or else one of a region beside it. -/
theorem ofCaret?_reached {p : Position} (h : Reached d.regions (d.offsetOf p) i region) :
    ofCaret? d p = (statement? d region).or
      (if d.offsetOf p = region.2 + 1 then d.regions[i + 1]?.bind (statement? d)
      else if i = 0 ∨ '\n' ∈ d.slice region.1 (d.offsetOf p) then none
      else d.regions[i - 1]?.bind (statement? d)) := by
  have hmem : region ∈ d.regions := List.mem_of_getElem? h.get
  rw [ofCaret?, underCaret_reached (ends_delimiters d) (d.offsetOf_le_length p) h,
    ofRegion?_eq_statement? hmem]
  congr 1
  split
  · exact bind_ofRegion? d (i + 1)
  · by_cases hline : '\n' ∈ d.slice region.1 (d.offsetOf p)
    · rw [ofRegionBefore?, if_pos (by simpa using hline), if_pos (Or.inr hline)]
    · rw [ofRegionBefore?, if_neg (by simpa using hline)]
      by_cases hi : i = 0
      · rw [if_pos hi, if_pos (Or.inl hi)]
        rfl
      · rw [if_neg hi, if_neg (by simp [hi, hline])]
        exact bind_ofRegion? d (i - 1)

/-- the same walk with slices that are refused unless their ends are in order and in the text -/
def checkedRegion? (d : Document) (x : Lexemes) (start stop : Nat) : Option (Option Request) :=
  if start ≤ stop ∧ stop ≤ d.length then some (ofRegion? d x start stop) else none

/-- The slice up to the caret is taken only if there is a statement to fall back on. -/
def checkedBefore? (d : Document) (caret start : Nat) : Option Request → Option (Option Request)
  | none => some none
  | some closed =>
    if start ≤ caret ∧ caret ≤ d.length then
      some (if (d.slice start caret).contains '\n' then none else some closed)
    else none

def checkedWalk (d : Document) (x : Lexemes) (caret : Nat) :
    Option Request → Nat → List Nat → Option (Option Request)
  | closed, start, [] => do
    match ← checkedRegion? d x start d.length with
    | some request => return if caret ≤ d.length then some request else none
    | none => if caret ≤ d.length then checkedBefore? d caret start closed else return none
  | closed, start, stop :: more => do
    match ← checkedRegion? d x start stop with
    | some request =>
      if caret ≤ stop + 1 then return some request
      else checkedWalk d x caret (some request) (stop + 1) more
    | none =>
      if caret ≤ stop then checkedBefore? d caret start closed
      else checkedWalk d x caret none (stop + 1) more

theorem checkedRegion?_of_le (x : Lexemes) (hle : start ≤ stop) (hstop : stop ≤ d.length) :
    checkedRegion? d x start stop = some (ofRegion? d x start stop) :=
  if_pos ⟨hle, hstop⟩

theorem checkedBefore?_of_le (x : Lexemes) (before : Option (Nat × Nat)) (hle : start ≤ c)
    (hc : c ≤ d.length) :
    checkedBefore? d c start (before.bind fun region => ofRegion? d x region.1 region.2) =
      some (ofRegionBefore? d x c start before) := by
  unfold ofRegionBefore?
  cases before.bind fun region => ofRegion? d x region.1 region.2 with
  | none => rw [checkedBefore?, ite_self]
  | some closed => rw [checkedBefore?, if_pos ⟨hle, hc⟩]

theorem checkedWalk_eq (before : Option (Nat × Nat)) (h : Ends d start delimiters)
    (hstart : start ≤ c) (hc : c ≤ d.length) :
    checkedWalk d x c (before.bind fun region => ofRegion? d x region.1 region.2) start delimiters =
      some (underCaret d x c before start delimiters) := by
  induction delimiters generalizing start before with
  | nil =>
    have hregion := checkedRegion?_of_le x h.inText (Nat.le_refl _)
    have hbefore := checkedBefore?_of_le x before hstart hc
    rw [checkedWalk, underCaret, hregion, if_pos hc]
    cases ofRegion? d x start d.length with
    | none => simpa [hc] using hbefore
    | some request => simp [hc]
  | cons stop more ih =>
    obtain ⟨hle, hlt⟩ := h.bounds stop List.mem_cons_self
    have hregion := checkedRegion?_of_le x hle (Nat.le_of_lt hlt)
    have honward : stop < c → checkedWalk d x c (ofRegion? d x start stop) (stop + 1) more =
        some (underCaret d x c (some (start, stop)) (stop + 1) more) :=
      ih (some (start, stop)) h.onward
    have hbefore := checkedBefore?_of_le x before hstart hc
    rw [checkedWalk, underCaret, hregion]
    cases hr : ofRegion? d x start stop with
    | none =>
      rw [hr] at honward
      by_cases hin : c ≤ stop
      · simpa [hin] using hbefore
      · simpa [hin] using honward (by omega)
    | some request =>
      rw [hr] at honward
      by_cases hin : c ≤ stop
      · simp [hin, Nat.le_succ_of_le hin]
      by_cases hright : c = stop + 1
      · simp [hright]
      · simpa [hin, hright, show ¬ c ≤ stop + 1 by omega] using honward (by omega)

end Request

open Request

/-- Which statement a caret runs. Of the regions between the delimiters the caret is in the first
that it has not passed, the place right behind its delimiter included. It runs the statement of that
region; or else the one of the next region if the caret is right behind the delimiter; or else the
one of the region before if no newline lies between the start of the caret's region and the caret.
All slices that are taken on the way are in range. -/
theorem caret_runs_region (d : Document) (p : Position) :
    ∃ i region, Reached d.regions (d.offsetOf p) i region ∧
      extract? d (.caret p) = (statement? d region).or
        (if d.offsetOf p = region.2 + 1 then d.regions[i + 1]?.bind (statement? d)
        else if i = 0 ∨ '\n' ∈ d.slice region.1 (d.offsetOf p) then none
        else d.regions[i - 1]?.bind (statement? d)) ∧
      (∀ region ∈ d.regions, region.1 ≤ region.2 ∧ region.2 ≤ d.length) ∧
      region.1 ≤ d.offsetOf p ∧ d.offsetOf p ≤ d.length ∧
      checkedWalk d (Lexemes.ofText d.chars) (d.offsetOf p) none 0
        (Lexemes.ofText d.chars).delimiters = some (extract? d (.caret p)) := by
  have hc := d.offsetOf_le_length p
  obtain ⟨i, region, h⟩ := exists_reached 0 (Lexemes.ofText d.chars).delimiters hc
  refine ⟨i, region, h, ofCaret?_reached h, ?_, ?_, hc, ?_⟩
  · intro region hmem
    exact ((ends_delimiters d).region_bounds hmem).2
  · exact h.start_le (Nat.zero_le _)
  · exact checkedWalk_eq none (ends_delimiters d) (Nat.zero_le _) hc

end CaretSql
