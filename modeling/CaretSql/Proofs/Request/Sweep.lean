import CaretSql.Proofs.Request.Caret

/-! Sweeping the caret over a text. Every statement is run by some caret, the carets that run one
statement stand next to each other, and a caret further on never runs an earlier statement. -/

namespace CaretSql

namespace Request

variable {d : Document} {c c' i j k l : Nat} {region region' : Nat × Nat}
  {rs : List (Nat × Nat)} {r r' : Request}

/-- A caret further on is not in an earlier region. -/
theorem Reached.index_le (h : Reached rs c i region) (h' : Reached rs c' j region') (hle : c ≤ c') :
    i ≤ j := by
  by_contra hlt
  have hpassed := h.first j (by omega) region' h'.get
  have := h'.le
  omega

theorem Reached.eq_region (h : Reached rs c i region) (h' : Reached rs c' i region') :
    region = region' :=
  Option.some.inj (h.get.symm.trans h'.get)

theorem Reached.bind_statement? (h : Reached d.regions c i region) :
    d.regions[i]?.bind (statement? d) = statement? d region := by
  rw [h.get]
  rfl

inductive Picks (d : Document) (c k : Nat) : Prop
  | own {region : Nat × Nat} (h : Reached d.regions c k region)
  | next {i : Nat} {region : Nat × Nat} (h : Reached d.regions c i region) (hk : k = i + 1)
      (hdead : statement? d region = none) (hc : c = region.2 + 1)
  | previous {region : Nat × Nat} (h : Reached d.regions c (k + 1) region)
      (hdead : statement? d region = none) (hc : c ≠ region.2 + 1)
      (hline : '\n' ∉ d.slice region.1 c)

theorem Picks.runs {p : Position} (h : Picks d (d.offsetOf p) k)
    (hr : d.regions[k]?.bind (statement? d) = some r) : ofCaret? d p = some r := by
  cases h with
  | own h =>
    rw [h.bind_statement?] at hr
    rw [ofCaret?_reached h, hr]
    rfl
  | next h hk hdead hc =>
    rw [ofCaret?_reached h, hdead, if_pos hc, ← hk]
    exact hr
  | previous h hdead hc hline =>
    rw [ofCaret?_reached h, hdead, if_neg hc, if_neg (by simp [hline])]
    exact hr

theorem exists_picks {p : Position} (hr : ofCaret? d p = some r) :
    ∃ k, Picks d (d.offsetOf p) k ∧ d.regions[k]?.bind (statement? d) = some r := by
  obtain ⟨i, region, h⟩ :=
    exists_reached 0 (Lexemes.ofText d.chars).delimiters (d.offsetOf_le_length p)
  rw [ofCaret?_reached h] at hr
  rcases Option.or_eq_some_iff.mp hr with hr | ⟨hdead, hr⟩
  · exact ⟨i, .own h, h.bind_statement?.trans hr⟩
  split at hr
  · next hc => exact ⟨i + 1, .next h rfl hdead hc, hr⟩
  · next hc =>
    split at hr
    · cases hr
    · next hnot =>
      rw [not_or] at hnot
      obtain ⟨k, rfl⟩ := Nat.exists_eq_succ_of_ne_zero hnot.1
      exact ⟨k, .previous h hdead hc hnot.2, hr⟩

/-- The carets that run one statement stand next to each other. -/
theorem Picks.between {a b : Nat} (ha : Picks d a k) (hc : Picks d c k) (hab : a ≤ b) (hbc : b ≤ c)
    (hlen : b ≤ d.length) : Picks d b k := by
  obtain ⟨j, region, hb⟩ := exists_reached 0 (Lexemes.ofText d.chars).delimiters hlen
  rcases Nat.lt_trichotomy j k with hlt | rfl | hlt
  -- the caret has not reached the region, so the first one must be right ahead of it
  · cases ha with
    | own h =>
      have := h.index_le hb hab
      omega
    | @next i before h hk hdead ha =>
      have := h.index_le hb hab
      obtain rfl : i = j := by omega
      obtain rfl := h.eq_region hb
      have hreach := hb.le
      obtain rfl : b = a := by omega
      exact .next hb hk hdead ha
    | previous h =>
      have := h.index_le hb hab
      omega
  · exact .own hb
  -- the caret has passed the region, so the last one must be in the region behind it
  · cases hc with
    | own h =>
      have := hb.index_le h hbc
      omega
    | next h hk =>
      have := hb.index_le h hbc
      omega
    | @previous after h hdead hc hline =>
      have := hb.index_le h hbc
      obtain rfl : j = k + 1 := by omega
      obtain rfl := h.eq_region hb
      have hreach := h.le
      have hstart := hb.start_le (Nat.zero_le b)
      refine .previous hb hdead (by omega) fun hmem => hline ?_
      obtain ⟨n, rfl⟩ := Nat.le.dest hstart
      rw [← d.slice_take hbc] at hmem
      exact List.mem_of_mem_take hmem

theorem Picks.index_le (h : Picks d c k) (h' : Picks d c' l) (hle : c ≤ c')
    (hk : d.regions[k]?.bind (statement? d) = some r)
    (hl : d.regions[l]?.bind (statement? d) = some r') : k ≤ l := by
  by_contra hlt
  cases h with
  | own h =>
    cases h' with
    | own h' | next h' =>
      have := h.index_le h' hle
      omega
    -- the caret at `c` would be in a region that holds no statement
    | previous h' hdead =>
      have := h.index_le h' hle
      obtain rfl : k = l + 1 := by omega
      rw [h'.bind_statement?, hdead] at hk
      cases hk
  | @next i region h hi hdead hc =>
    cases h' with
    | own h' =>
      have := h.index_le h' hle
      obtain rfl : l = i := by omega
      rw [h.bind_statement?, hdead] at hl
      cases hl
    | next h' =>
      have := h.index_le h' hle
      omega
    | previous h' hdead' hc' =>
      have := h.index_le h' hle
      rcases Nat.lt_or_ge l i with hli | hli
      -- both carets would be in the region `i`, the first one behind its delimiter
      · obtain rfl : i = l + 1 := by omega
        obtain rfl := h.eq_region h'
        have hreach := h'.le
        omega
      · obtain rfl : l = i := by omega
        rw [h.bind_statement?, hdead] at hl
        cases hl
  | previous h =>
    cases h' with
    | own h' | next h' | previous h' =>
      have := h.index_le h' hle
      omega

theorem bind_statement?_eq_some (hk : d.regions[k]?.bind (statement? d) = some r) :
    ∃ region, d.regions[k]? = some region ∧
      Live d (Lexemes.ofText d.chars) region.1 region.2 ∧ r = trimmed d region := by
  obtain ⟨region, hget, hr⟩ := Option.bind_eq_some_iff.mp hk
  unfold statement? at hr
  split at hr
  · next hlive => exact ⟨region, hget, hlive, (Option.some.inj hr).symm⟩
  · cases hr

theorem offsetOf_origin_trimmed (h : Live d (Lexemes.ofText d.chars) region.1 region.2) :
    d.offsetOf (trimmed d region).origin = leadEnd d region.1 region.2 :=
  d.offsetOf_positionOf (Nat.le_of_lt h.leadEnd_lt)

theorem offsetOf_origin_lt (hlt : k < l) (hk : d.regions[k]?.bind (statement? d) = some r)
    (hl : d.regions[l]?.bind (statement? d) = some r') :
    d.offsetOf r.origin < d.offsetOf r'.origin := by
  obtain ⟨region, hget, hlive, rfl⟩ := bind_statement?_eq_some hk
  obtain ⟨region', hget', hlive', rfl⟩ := bind_statement?_eq_some hl
  have hbehind := regions_ordered hget hget' hlt
  rw [offsetOf_origin_trimmed hlive, offsetOf_origin_trimmed hlive']
  calc leadEnd d region.1 region.2 < region.2 := hlive.leadEnd_lt_stop
    _ ≤ region'.1 := by omega
    _ ≤ leadEnd d region'.1 region'.2 := Nat.le_add_right _ _

theorem index_eq (hk : d.regions[k]?.bind (statement? d) = some r)
    (hl : d.regions[l]?.bind (statement? d) = some r) : k = l := by
  rcases Nat.lt_trichotomy k l with hlt | heq | hlt
  · exact absurd (offsetOf_origin_lt hlt hk hl) (Nat.lt_irrefl _)
  · exact heq
  · exact absurd (offsetOf_origin_lt hlt hl hk) (Nat.lt_irrefl _)

theorem Live.reached (h : Live d (Lexemes.ofText d.chars) region.1 region.2)
    (hget : d.regions[k]? = some region) : Reached d.regions region.2 k region := by
  refine reached_inside hget ?_ (Nat.le_refl _)
  calc region.1 ≤ leadEnd d region.1 region.2 := Nat.le_add_right _ _
    _ < region.2 := h.leadEnd_lt_stop

def ofOffset? (d : Document) (c : Nat) : Option Request := extract? d (.caret (d.positionOf c))

theorem Picks.ofOffset?_eq (h : Picks d c k) (hc : c ≤ d.length)
    (hr : d.regions[k]?.bind (statement? d) = some r) : ofOffset? d c = some r := by
  rw [← d.offsetOf_positionOf hc] at h
  exact h.runs hr

theorem exists_picks_offset (hc : c ≤ d.length) (hr : ofOffset? d c = some r) :
    ∃ k, Picks d c k ∧ d.regions[k]?.bind (statement? d) = some r := by
  have h := exists_picks hr
  rwa [d.offsetOf_positionOf hc] at h

end Request

open Request

/-- Sweeping the caret over a text, from its start to its end, runs every statement in it: for at
least one caret, for carets next to each other only, and never one before those already run. -/
theorem caret_sweep (d : Document) :
    (∀ region ∈ d.regions, Live d (Lexemes.ofText d.chars) region.1 region.2 →
      ∃ c ≤ d.length, ofOffset? d c = some (trimmed d region)) ∧
    (∀ region ∈ d.regions, ∀ a b c, a ≤ b → b ≤ c → c ≤ d.length →
      ofOffset? d a = some (trimmed d region) → ofOffset? d c = some (trimmed d region) →
      ofOffset? d b = some (trimmed d region)) ∧
    ∀ c c' r r', c ≤ c' → c' ≤ d.length → ofOffset? d c = some r → ofOffset? d c' = some r' →
      d.offsetOf r.origin ≤ d.offsetOf r'.origin := by
  refine ⟨?_, ?_, ?_⟩
  · intro region hmem hlive
    obtain ⟨k, hget⟩ := List.getElem?_of_mem hmem
    have hstop := ((ends_delimiters d).region_bounds hmem).2.2
    refine ⟨region.2, hstop, Picks.ofOffset?_eq (.own (hlive.reached hget)) hstop ?_⟩
    rw [hget]
    exact if_pos hlive
  · intro region _ a b c hab hbc hc ha hr
    obtain ⟨k, hpicks, hk⟩ := exists_picks_offset (by omega) ha
    obtain ⟨l, hpicks', hl⟩ := exists_picks_offset hc hr
    obtain rfl := index_eq hk hl
    exact (hpicks.between hpicks' hab hbc (by omega)).ofOffset?_eq (by omega) hk
  · intro c c' r r' hle hc' hr hr'
    obtain ⟨k, hpicks, hk⟩ := exists_picks_offset (by omega) hr
    obtain ⟨l, hpicks', hl⟩ := exists_picks_offset hc' hr'
    rcases Nat.eq_or_lt_of_le (hpicks.index_le hpicks' hle hk hl) with rfl | hlt
    · rw [Option.some.inj (hk.symm.trans hl)]
    · exact Nat.le_of_lt (offsetOf_origin_lt hlt hk hl)

/-- Over `1;; 2` the first statement is run from its start, behind its delimiter and between, and
the place behind the empty one runs the second. -/
theorem caret_sweep_two_statements :
    let d : Document := ⟨"1;; 2".toList⟩
    (∃ c ≤ 5, ofOffset? d c = some ⟨['2'], 1, 4⟩) ∧
      ofOffset? d 1 = some ⟨['1'], 1, 0⟩ ∧
      d.offsetOf ⟨1, 0⟩ ≤ d.offsetOf ⟨1, 4⟩ := by
  intro d
  obtain ⟨reachable, contiguous, forward⟩ := caret_sweep d
  refine ⟨?_, ?_, ?_⟩
  · exact reachable (3, 5) (by decide +kernel) (by decide +kernel)
  · exact contiguous (0, 1) (by decide +kernel) 0 1 2 (by decide) (by decide) (by decide)
      (by decide +kernel) (by decide +kernel)
  · exact forward 2 3 ⟨['1'], 1, 0⟩ ⟨['2'], 1, 4⟩ (by decide) (by decide) (by decide +kernel)
      (by decide +kernel)

end CaretSql
