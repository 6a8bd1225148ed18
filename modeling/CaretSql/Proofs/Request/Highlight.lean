import CaretSql.Proofs.Request.ErrorMapping
import CaretSql.Proofs.Request.Quote
import CaretSql.Proofs.Request.Sweep

/-! How far the highlight of a failure reaches. It is cut out of the text without regard to the
statement that failed, but no word, blank or single character of a statement reaches past its end.
What is highlighted behind the statement is the delimiter right there, or the blanks behind a literal
that the text leaves open. -/

namespace CaretSql

namespace ErrorLocation

theorem offsetOf_position (d : Document) (r : Request) (offset : Nat) :
    d.offsetOf (locate d r offset).position = d.offsetOf (r.positionAt offset) :=
  d.offsetOf_positionOf (d.offsetOf_le_length _)

theorem offsetOf_stop (d : Document) (r : Request) (offset : Nat) :
    d.offsetOf (locate d r offset).span.stop = d.offsetOf (r.positionAt offset) +
      width (d.chars.drop (d.offsetOf (r.positionAt offset))) := by
  apply d.offsetOf_positionOf
  have hwidth := width_le (d.chars.drop (d.offsetOf (r.positionAt offset)))
  have hle := d.offsetOf_le_length (r.positionAt offset)
  rw [List.length_drop] at hwidth
  unfold Document.length at *
  omega

end ErrorLocation

open ErrorLocation Token

namespace Request

variable {d : Document} {p : Position} {r : Request}

def stop (d : Document) (r : Request) : Nat := d.offsetOf r.origin + r.query.length

theorem drop_origin {a : Anchor} (h : extract? d a = some r) {k : Nat} (hk : k ≤ r.query.length) :
    d.chars.drop (d.offsetOf r.origin + k) = r.query.drop k ++ d.chars.drop (stop d r) := by
  have hslice := slice_origin h
  have hdrop : d.chars.drop (d.offsetOf r.origin) = r.query ++ d.chars.drop (stop d r) := by
    conv => rhs; rw [← hslice]
    rw [Document.slice, List.drop_take, stop, Nat.add_sub_cancel_left, ← List.drop_drop,
      List.take_append_drop]
  rw [← List.drop_drop, hdrop, List.drop_append_of_le_length hk]

theorem stop_le_length {a : Anchor} (h : extract? d a = some r) : stop d r ≤ d.length := by
  have hlength := congrArg List.length (slice_origin h)
  have hle := d.offsetOf_le_length r.origin
  rw [Document.length_slice] at hlength
  unfold stop
  omega

theorem stop_of_mem_regions {start : Nat} {delimiters : List Nat} {region : Nat × Nat}
    (h : region ∈ regions d start delimiters) :
    region.2 = d.length ∨ region.2 ∈ delimiters := by
  induction delimiters generalizing start with
  | nil =>
    obtain rfl := List.mem_singleton.mp h
    exact .inl rfl
  | cons stop more ih =>
    rcases List.mem_cons.mp h with rfl | hmore
    · exact .inr List.mem_cons_self
    · exact (ih hmore).imp id (List.mem_cons_of_mem _)

theorem getElem?_of_mem_delimiters {o : Nat} (h : o ∈ (Lexemes.ofText d.chars).delimiters) :
    d.chars[o]? = some ';' := by
  rw [Lexer.ofText_eq_ofTokens] at h
  have hget := Lexemes.getElem?_of_mem_delimiters h
  rwa [Token.joined_tokens] at hget

theorem slice_stop {region : Nat × Nat} (hregion : region ∈ d.regions)
    (h : Live d (Lexemes.ofText d.chars) region.1 region.2) :
    stop d (trimmed d region) ≤ region.2 ∧
      ∀ c ∈ d.slice (stop d (trimmed d region)) region.2, Character.isBlank c = true := by
  have hclose : region.2 ≤ d.length := ((ends_delimiters d).region_bounds hregion).2.2
  have hsplit := Character.trim_split h.exists_mem
  have hlen := congrArg List.length hsplit
  have hstop : stop d (trimmed d region) = region.1 +
      (((d.slice region.1 region.2).takeWhile Character.isBlank) ++
        Character.trim (d.slice region.1 region.2)).length := by
    rw [stop, offsetOf_origin_trimmed h, leadEnd, List.length_append, Nat.add_assoc]
    rfl
  rw [List.length_append, Document.length_slice, Nat.min_eq_left hclose] at hlen
  have hbegin := h.leadEnd_lt_stop
  rw [leadEnd] at hbegin
  refine ⟨by omega, ?_⟩
  have hrest : d.slice (stop d (trimmed d region)) region.2 =
      ((d.slice region.1 region.2).reverse.takeWhile Character.isBlank).reverse := by
    rw [hstop, ← Document.slice_drop]
    exact (congrArg _ hsplit).trans (List.drop_left' rfl)
  intro c hc
  rw [hrest] at hc
  exact List.mem_takeWhile_imp (List.mem_reverse.mp hc)

/-- A statement stands in a region of its text, up to whose end there are only blanks behind it. -/
theorem exists_region (h : ofCaret? d p = some r) : ∃ close, stop d r ≤ close ∧
    (close = d.length ∨ close ∈ (Lexemes.ofText d.chars).delimiters) ∧
    ∀ c ∈ d.slice (stop d r) close, Character.isBlank c = true := by
  obtain ⟨k, -, hk⟩ := exists_picks h
  obtain ⟨region, hget, hlive, rfl⟩ := bind_statement?_eq_some hk
  have hmem : region ∈ d.regions := List.mem_of_getElem? hget
  obtain ⟨hle, hblank⟩ := slice_stop hmem hlive
  exact ⟨region.2, hle, stop_of_mem_regions hmem, hblank⟩

theorem isBlank_of_slice {start close o : Nat} {c : Char}
    (h : ∀ c ∈ d.slice start close, Character.isBlank c = true) (hle : start ≤ o) (hlt : o < close)
    (hc : d.chars[o]? = some c) : Character.isBlank c = true := by
  refine h c (List.mem_of_getElem? (i := o - start) ?_)
  rw [Document.slice, List.getElem?_drop, Nat.add_sub_cancel' hle, List.getElem?_take_of_lt hlt, hc]

theorem behind_statement (h : ofCaret? d p = some r) {c : Char}
    (hc : d.chars[stop d r]? = some c) :
    Character.isBlank c = true ∨ c = ';' ∧ stop d r ∈ (Lexemes.ofText d.chars).delimiters := by
  obtain ⟨close, hle, hclose, hblank⟩ := exists_region h
  rcases Nat.eq_or_lt_of_le hle with rfl | hlt
  · rcases hclose with hend | hdelimiter
    · rw [hend, Document.length, List.getElem?_length] at hc
      cases hc
    · have hget := getElem?_of_mem_delimiters hdelimiter
      exact .inr ⟨Option.some.inj (hc.symm.trans hget), hdelimiter⟩
  · exact .inl (isBlank_of_slice hblank (Nat.le_refl _) hlt hc)

theorem separates_behind (h : ofCaret? d p = some r) : Separates (d.chars.drop (stop d r)) := by
  refine separates_of_isBlank fun c hc => ?_
  rw [List.head?_drop] at hc
  exact (behind_statement h hc).imp id And.left

theorem offsetOf_span {a : Anchor} (h : extract? d a = some r) (k : Nat) :
    d.offsetOf (locate d r k).span.start = d.offsetOf r.origin + min k r.query.length ∧
      d.offsetOf (locate d r k).span.stop = d.offsetOf r.origin + min k r.query.length +
        width (r.query.drop k ++ d.chars.drop (stop d r)) := by
  have hplace := offsetOf_positionAt h k
  have hdrop := drop_origin h (Nat.min_le_right k r.query.length)
  have hcut : r.query.drop (min k r.query.length) = r.query.drop k := by
    rcases Nat.le_total k r.query.length with hle | hge
    · rw [Nat.min_eq_left hle]
    · rw [Nat.min_eq_right hge, List.drop_length, List.drop_of_length_le hge]
  rw [hcut] at hdrop
  constructor
  · rw [← hplace]
    exact offsetOf_position d r k
  · rw [offsetOf_stop, hplace, hdrop]

/-- Behind the end of a statement its delimiter is highlighted, if it stands right there, and
nothing otherwise. -/
theorem width_behind (h : ofCaret? d p = some r) :
    width (d.chars.drop (stop d r)) =
      if stop d r ∈ (Lexemes.ofText d.chars).delimiters then 1 else 0 := by
  split
  · next hdelimiter =>
    obtain ⟨hlt, hget⟩ := List.getElem?_eq_some_iff.mp (getElem?_of_mem_delimiters hdelimiter)
    rw [List.drop_eq_getElem_cons hlt, hget]
    rfl
  · next hnone =>
    cases hrest : d.chars.drop (stop d r) with
    | nil => rfl
    | cons c rest =>
      have hget : d.chars[stop d r]? = some c := by
        rw [← List.head?_drop, hrest]
        rfl
      rcases behind_statement h hget with hblank | ⟨-, hdelimiter⟩
      · exact if_pos hblank
      · exact absurd hdelimiter hnone

/-- Within a statement what does not begin with a quote that the rest of it leaves open is highlighted
up to its end at most. -/
theorem width_inside (h : ofCaret? d p = some r) {k : Nat} (hk : k < r.query.length)
    (hclosed : ¬ LeftOpen (r.query.drop k)) :
    width (r.query.drop k ++ d.chars.drop (stop d r)) ≤ r.query.length - k := by
  have hne : r.query.drop k ≠ [] := fun hnil =>
    Nat.not_le_of_lt hk (List.drop_eq_nil_iff.mp hnil)
  rw [width_append hne hclosed (separates_behind h), ← List.length_drop]
  exact width_le _

/-- a plain literal or a quoted identifier of the text begins at this offset -/
def OpensQuote (d : Document) (o : Nat) : Prop :=
  ∃ x ∈ place 0 (tokens d.chars),
    x.1 = o ∧ (x.2.kind = .plainLiteral ∨ x.2.kind = .quotedIdentifier)

theorem place_le_close {o close : Nat} {t : Token} (ht : (o, t) ∈ place 0 (tokens d.chars))
    (hclose : close = d.length ∨ close ∈ (Lexemes.ofText d.chars).delimiters) (hlt : o < close) :
    o + t.text.length ≤ close := by
  rcases hclose with rfl | hdelimiter
  · have hbounds := (place_bounds ht).2
    rwa [joined_tokens, Nat.zero_add] at hbounds
  · rw [Lexer.ofText_eq_ofTokens, Lexemes.mem_delimiters] at hdelimiter
    rcases place_apart ht hdelimiter with heq | hbefore | hbehind
    · exact absurd (Prod.mk.inj heq).1 (Nat.ne_of_lt hlt)
    · exact hbefore
    · exact absurd hbehind (Nat.not_le_of_lt (Nat.lt_succ_of_lt hlt))

/-- A literal that begins in a statement and goes on behind it is one that the text leaves open, since
the statement's last character would be its closing quote. -/
theorem blank_of_reaches (h : ofCaret? d p = some r) {quote : Char} {o : Nat} {t : Token}
    (hquote : quote = '\'' ∨ quote = '"') (ht : (o, t) ∈ place 0 (tokens d.chars))
    (hreaches : Reaches quote (stop d r) d.length o t) :
    ∀ c ∈ d.chars.drop (stop d r), Character.isBlank c = true := by
  obtain ⟨close, hle, hclose, hblank⟩ := exists_region h
  have hwithin := place_le_close ht hclose (Nat.lt_of_lt_of_le hreaches.start hle)
  rcases hreaches.stop with hend | ⟨hlt, hlast⟩
  · have hlength : d.length ≤ close := hend ▸ hwithin
    intro c hc
    obtain ⟨i, hi⟩ := List.mem_iff_getElem?.mp hc
    rw [List.getElem?_drop] at hi
    obtain ⟨hin, -⟩ := List.getElem?_eq_some_iff.mp hi
    exact isBlank_of_slice hblank (Nat.le_add_right _ _) (Nat.lt_of_lt_of_le hin hlength) hi
  · have hpos : 0 < t.text.length := by
      rw [List.length_pos_iff]
      intro hnil
      rw [hnil] at hlast
      cases hlast
    have hget := place_getElem? ht (t.text.length - 1) (Nat.sub_lt hpos Nat.one_pos)
    rw [joined_tokens, Nat.sub_zero, ← List.getLast?_eq_getElem?, hlast] at hget
    have hisBlank := isBlank_of_slice hblank (by omega) (by omega) hget
    rw [(plain_quote hquote).1] at hisBlank
    cases hisBlank

/-- Where a literal begins that the rest of its statement does not close, nothing closes it, and there
are only blanks behind the statement. -/
theorem blank_behind_open (h : ofCaret? d p = some r) {k : Nat} (hk : k < r.query.length)
    (hopen : LeftOpen (r.query.drop k)) (hbegins : OpensQuote d (d.offsetOf r.origin + k)) :
    ∀ c ∈ d.chars.drop (stop d r), Character.isBlank c = true := by
  obtain ⟨⟨_, t⟩, ht, rfl, hkind⟩ := hbegins
  obtain ⟨quote, u, hu, hquote, hunclosed⟩ := hopen
  obtain ⟨behind, hhead, hplaces⟩ := exists_behind ht
  have hlength := congrArg List.length hu
  rw [List.length_drop, List.length_cons] at hlength
  have hstop : d.offsetOf r.origin + k + (u.length + 1) = stop d r := by
    rw [stop]
    omega
  have hend : stop d r + (d.chars.drop (stop d r)).length = d.length := by
    rw [List.length_drop]
    exact Nat.add_sub_cancel' (stop_le_length (a := .caret p) h)
  rw [drop_origin (a := .caret p) h (Nat.le_of_lt hk), hu, List.cons_append] at hhead hplaces
  obtain ⟨o, t', hmem, hreaches⟩ := exists_reaches hquote hunclosed (d.chars.drop (stop d r))
    (fun other hother => by
      obtain rfl := Option.some.inj (hhead.symm.trans hother)
      exact hkind) (d.offsetOf r.origin + k)
  rw [hstop, hend] at hreaches
  exact blank_of_reaches h hquote (hplaces hmem) hreaches

end Request

open Request

/-- A highlight begins in its statement, or right behind it if the offset is past its end; there it is
the delimiter that stands right there, or nothing. Within the statement it ends at the end of the
statement at the latest, unless it begins with a quote that the rest of the statement does not close.
If that is where a literal or a quoted identifier begins, the text does not close it either, and all
that is left of the text is highlighted, with nothing but blanks behind the statement. -/
theorem highlight_stays_in_statement {d : Document} {p : Position} {r : Request}
    (h : extract? d (.caret p) = some r) (k : Nat) :
    let span := (locate d r k).span
    d.offsetOf r.origin ≤ d.offsetOf span.start ∧ d.offsetOf span.start ≤ stop d r ∧
      d.offsetOf span.start ≤ d.offsetOf span.stop ∧
      (r.query.length ≤ k → d.offsetOf span.start = stop d r ∧ d.offsetOf span.stop =
        if stop d r ∈ (Lexemes.ofText d.chars).delimiters then stop d r + 1 else stop d r) ∧
      (k < r.query.length → ¬ LeftOpen (r.query.drop k) → d.offsetOf span.stop ≤ stop d r) ∧
      (k < r.query.length → LeftOpen (r.query.drop k) → OpensQuote d (d.offsetOf r.origin + k) →
        LeftOpen (d.chars.drop (d.offsetOf r.origin + k)) ∧ d.offsetOf span.stop = d.length ∧
          ∀ c ∈ d.chars.drop (stop d r), Character.isBlank c = true) := by
  intro span
  obtain ⟨hstart, hstop⟩ := offsetOf_span h k
  change d.offsetOf span.start = _ at hstart
  change d.offsetOf span.stop = _ at hstop
  have hend : stop d r = d.offsetOf r.origin + r.query.length := rfl
  refine ⟨by omega, by omega, by omega, ?_, ?_, ?_⟩
  · intro hpast
    rw [List.drop_of_length_le hpast, List.nil_append, width_behind h, Nat.min_eq_right hpast] at hstop
    refine ⟨by omega, ?_⟩
    split at hstop
    · next hdelimiter => rw [if_pos hdelimiter, hstop, hend]
    · next hnone => rw [if_neg hnone, hstop, hend, Nat.add_zero]
  · intro hin hclosed
    have hwidth := width_inside h hin hclosed
    omega
  · intro hin hopen hbegins
    have hblank := blank_behind_open h hin hopen hbegins
    have hleft := hopen.append_blanks hblank
    have hrest := drop_origin h (Nat.le_of_lt hin)
    rw [hleft.width_eq, ← hrest, List.length_drop, Nat.min_eq_left (Nat.le_of_lt hin)] at hstop
    have hle := stop_le_length h
    refine ⟨hrest ▸ hleft, ?_, hblank⟩
    unfold Document.length at *
    omega

/-- In `a;'b ` a failure behind the first statement is highlighted at the delimiter, and one at the
quote, which nothing closes, up to the end of the text. -/
theorem highlight_stays_in_both_of_two :
    let d : Document := ⟨['a', ';', '\'', 'b', ' ']⟩
    let first : Request := ⟨['a'], 1, 0⟩
    let second : Request := ⟨['\'', 'b'], 1, 2⟩
    extract? d (.caret ⟨1, 0⟩) = some first ∧
      d.offsetOf (locate d first 1).span.start = 1 ∧ d.offsetOf (locate d first 1).span.stop = 2 ∧
      extract? d (.caret ⟨1, 3⟩) = some second ∧
      d.offsetOf (locate d second 0).span.start = 2 ∧
      d.offsetOf (locate d second 0).span.stop = 5 ∧
      ∀ c ∈ d.chars.drop (stop d second), Character.isBlank c = true := by
  intro d first second
  have hfirst : extract? d (.caret ⟨1, 0⟩) = some first := by decide +kernel
  have hsecond : extract? d (.caret ⟨1, 3⟩) = some second := by decide +kernel
  obtain ⟨-, -, -, hpast, -, -⟩ := highlight_stays_in_statement hfirst 1
  obtain ⟨hstart, hstop⟩ := hpast (by decide)
  have hdelimiter : stop d first ∈ (Lexemes.ofText d.chars).delimiters := by decide +kernel
  rw [if_pos hdelimiter] at hstop
  obtain ⟨-, hle, hordered, -, -, hinside⟩ := highlight_stays_in_statement hsecond 0
  have hopen : LeftOpen (second.query.drop 0) :=
    ⟨'\'', ['b'], rfl, .inl rfl, .other (by decide) .nil⟩
  have hbegins : OpensQuote d (d.offsetOf second.origin + 0) :=
    ⟨(2, ⟨.plainLiteral, ['\'', 'b', ' ']⟩), by decide +kernel, by decide, .inl rfl⟩
  obtain ⟨-, hend, hblank⟩ := hinside (by decide) hopen hbegins
  exact ⟨hfirst, hstart.trans (by decide), hstop.trans (by decide), hsecond, by decide +kernel,
    hend.trans (by decide), hblank⟩

/-- In `a;b` a failure behind the first statement is highlighted at the delimiter, which is not of the
statement. -/
theorem highlight_covers_delimiter :
    ¬ ∀ (d : Document) (p : Position) (r : Request), extract? d (.caret p) = some r →
      ∀ k, d.offsetOf r.origin ≤ d.offsetOf (locate d r k).span.start ∧
        d.offsetOf (locate d r k).span.stop ≤ d.offsetOf r.origin + r.query.length := by
  intro hall
  have h := hall ⟨['a', ';', 'b']⟩ ⟨1, 0⟩ ⟨['a'], 1, 0⟩ (by decide +kernel) 1
  revert h
  decide +kernel

end CaretSql
