import CaretSql.Proofs.Text.Numeral
import CaretSql.Proofs.Text.Part
import CaretSql.Proofs.Url.Host
import CaretSql.Proofs.Url.Path
import CaretSql.Url.Parse

/-! How an authority is taken apart again. The characters that separate its parts are looked for in a
fixed order, so each part may hold those that are looked for before it and no others. -/

namespace CaretSql.Url

variable {s t host userinfo : List Char} {port : Nat}

def ends : List Char := "/?#".toList

theorem authority_append (h : s.Disjoint ends) (t : List Char) :
    authority false (s ++ '/' :: t) = s := by
  unfold authority
  rw [List.takeWhile_append_of_pos fun c hc => by
    have hnot : c ∉ ends := h hc
    have hslash : c ≠ '/' ∧ c ≠ '?' ∧ c ≠ '#' := by simpa [ends] using hnot
    simp [hslash]]
  simp

theorem splitUserinfo_of_not_mem (h : '@' ∉ s) : splitUserinfo s = none := by
  rw [splitUserinfo, if_neg (by simpa using h)]

theorem splitUserinfo_append (h : '@' ∉ t) (s : List Char) :
    splitUserinfo (s ++ '@' :: t) = some (s, t) := by
  have hafter : ((s ++ '@' :: t).reverse.takeWhile (· != '@')).reverse = t := by
    have hrev : (s ++ '@' :: t).reverse = t.reverse ++ '@' :: s.reverse := by simp
    rw [hrev, Text.takeWhile_ne (by simpa using h), List.reverse_reverse]
  have hlen : (s ++ '@' :: t).length - t.length - 1 = s.length := by
    rw [List.length_append, List.length_cons]
    omega
  rw [splitUserinfo, if_pos (by simp)]
  dsimp only
  rw [hafter, hlen, List.take_left' rfl]

theorem hostText_bracketed (h : ']' ∉ s) (t : List Char) :
    hostText true (s ++ ']' :: t) = s ++ ']' :: hostText false t := by
  induction s with
  | nil => simp [hostText]
  | cons c s ih =>
    rw [List.mem_cons, not_or] at h
    rw [List.cons_append, hostText, if_neg (by simp), if_neg (Ne.symm h.1), ite_self]
    exact congrArg (c :: ·) (ih h.2)

theorem hostText_plain (h : ∀ c ∈ s, c ≠ ':' ∧ c ≠ '[') (t : List Char) :
    hostText false (s ++ ':' :: t) = s := by
  induction s with
  | nil => simp [hostText]
  | cons c s ih =>
    obtain ⟨⟨hcolon, hopen⟩, hrest⟩ := List.forall_mem_cons.mp h
    rw [List.cons_append, hostText, if_neg (by simp [hcolon]), if_neg hopen, ite_self, ih hrest]

/-- The colon of the port is the first one outside brackets. -/
theorem Host.Kept.hostText (h : Host.Kept host) (t : List Char) :
    hostText false (host ++ ':' :: t) = host := by
  rcases h.cases with ⟨inner, rfl, hinner⟩ | hall
  · have hclose : ']' ∉ inner := fun hmem => absurd (hinner _ hmem) (by decide)
    have hrest := hostText_bracketed hclose (':' :: t)
    have hnil : Url.hostText false (':' :: t) = [] := by simp [Url.hostText]
    rw [hnil] at hrest
    rw [List.cons_append, List.cons_append, List.append_assoc, Url.hostText]
    exact congrArg ('[' :: ·) hrest
  · refine hostText_plain (fun c hc => ?_) t
    have hc := hall c hc
    constructor
    · rintro rfl
      exact absurd hc (by decide)
    · rintro rfl
      exact absurd hc (by decide)

theorem dropWhile_toDigits (n : Nat) (t : List Char) :
    (Nat.toDigits 10 n ++ '/' :: t).dropWhile Char.isDigit = '/' :: t := by
  rw [List.dropWhile_append_of_pos (Text.Numeral.isDigit_toDigits n)]
  rfl

theorem port?_toDigits (h : port < 65536) (t : List Char) :
    port? (Nat.toDigits 10 port ++ '/' :: t) = .ok (some port) := by
  have hdigit := Text.Numeral.isDigit_toDigits port
  have hend : "/\\?#".toList.all (fun c => !c.isDigit) = true := by decide
  have htake : (Nat.toDigits 10 port ++ '/' :: t).takeWhile
      (fun c => !"/\\?#".toList.contains c) = Nat.toDigits 10 port := by
    rw [List.takeWhile_append_of_pos fun c hc => by
      have hnot : c ∉ "/\\?#".toList := fun hmem =>
        absurd (hdigit c hc) (by simpa using List.all_eq_true.mp hend c hmem)
      simpa using hnot]
    simp
  have hvalue : (Nat.toDigits 10 port).foldl (fun n c => 10 * n + (c.toNat - 48)) 0 = port :=
    Nat.ofDigitChars_ten_toDigits
  have hne : (Nat.toDigits 10 port).isEmpty = false := by
    rw [List.isEmpty_eq_false_iff]
    exact Nat.toDigits_ne_nil
  rw [port?, htake]
  dsimp only
  rw [if_neg (by simp [hne]), if_pos (List.all_eq_true.mpr hdigit), hvalue, if_pos (by omega)]

theorem pathText_slash (hend : '?' ∉ s ∧ '#' ∉ s) (hplain : Text.Percent.Plain s)
    (hdots : ∀ segment ∈ s.splitOn '/', ¬ Path.IsDots segment) :
    pathText false ('/' :: s) = '/' :: Text.Percent.encode Path.isKept s := by
  have hall : ('/' :: s).takeWhile (fun c => c != '?' && c != '#') = '/' :: s := by
    rw [List.takeWhile_eq_self_iff]
    intro c hc
    rcases List.mem_cons.mp hc with rfl | hc
    · rfl
    · have hquestion : c ≠ '?' := fun heq => hend.1 (heq ▸ hc)
      have hhash : c ≠ '#' := fun heq => hend.2 (heq ▸ hc)
      simp [hquestion, hhash]
  rw [pathText]
  simp only [hall, Bool.false_eq_true, if_false]
  exact Path.resolve_splitOn hplain hdots

def userPart (userinfo : List Char) : List Char :=
  if userinfo.isEmpty then [] else userinfo ++ ['@']

theorem splitUser_userPart (huser : userinfo.Disjoint ends) (hs : s.Disjoint ends) (hat : '@' ∉ s)
    (t : List Char) :
    splitUser false (userPart userinfo ++ (s ++ '/' :: t)) = .ok (userinfo, s ++ '/' :: t) := by
  unfold splitUser userPart
  cases userinfo with
  | nil =>
    rw [List.isEmpty_nil, if_pos rfl, List.nil_append, authority_append hs, splitUserinfo_of_not_mem hat]
  | cons c rest =>
    have hwhole : c :: rest ++ ['@'] ++ (s ++ '/' :: t) = (c :: rest ++ '@' :: s) ++ '/' :: t := by
      simp
    have hinner : (c :: rest ++ '@' :: s).Disjoint ends :=
      List.disjoint_append_left.mpr ⟨huser, List.disjoint_cons_left.mpr ⟨by decide, hs⟩⟩
    have hdrop : (c :: rest ++ '@' :: s ++ '/' :: t).drop ((c :: rest).length + 1) = s ++ '/' :: t := by
      simp
    rw [List.isEmpty_cons, if_neg Bool.false_ne_true, hwhole, authority_append hinner,
      splitUserinfo_append hat]
    dsimp only
    rw [hdrop, if_neg (by simp)]

def hostPart (host : List Char) (port : Nat) : List Char := host ++ ':' :: Nat.toDigits 10 port

/-- Host and port hold no character that ends an authority or the part for the user. -/
theorem disjoint_hostPart (h : Host.Kept host) (port : Nat) :
    (hostPart host port).Disjoint Host.outside := by
  refine List.disjoint_append_left.mpr ⟨h.disjoint, List.disjoint_cons_left.mpr ⟨by decide, ?_⟩⟩
  have hplain : Host.outside.all (fun c => !c.isDigit) = true := by decide
  rw [List.disjoint_left]
  intro c hc hmem
  have hnot := List.all_eq_true.mp hplain c hmem
  rw [Text.Numeral.isDigit_toDigits port c hc] at hnot
  cases hnot

/-- Host, port and path are taken apart as they were put together, under a scheme that is not of the
web. -/
theorem parseHost_parts {scheme database : List Char} (hscheme : webSchemes.lookup scheme = none)
    (hhost : Host.Kept host) (hport : port < 65536) (hend : '?' ∉ database ∧ '#' ∉ database)
    (hplain : Text.Percent.Plain database)
    (hdots : ∀ segment ∈ database.splitOn '/', ¬ Path.IsDots segment) :
    parseHost scheme userinfo (hostPart host port ++ '/' :: database) =
      .ok {
        scheme
        username := Text.Percent.encode isUserinfoKept (userinfo.takeWhile (· != ':'))
        password := if (userinfo.drop ((userinfo.takeWhile (· != ':')).length + 1)).isEmpty then none
          else some (Text.Percent.encode isUserinfoKept
            (userinfo.drop ((userinfo.takeWhile (· != ':')).length + 1)))
        host := some host
        port := some port
        path := '/' :: Text.Percent.encode Path.isKept database } := by
  have hname : hostText false (authority false (hostPart host port ++ '/' :: database)) = host := by
    rw [authority_append (List.disjoint_of_subset_right (by decide) (disjoint_hostPart hhost port))]
    exact hhost.hostText _
  have hrest : (hostPart host port ++ '/' :: database).drop host.length =
      ':' :: (Nat.toDigits 10 port ++ '/' :: database) := by
    rw [hostPart, List.append_assoc]
    exact List.drop_left' rfl
  have hne : host.isEmpty = false := List.isEmpty_eq_false_iff.mpr hhost.ne_nil
  simp only [parseHost, hscheme, Option.isSome_none, hname, hrest, hostOf, hhost.same, hne,
    port?_toDigits hport, dropWhile_toDigits, pathText_slash hend hplain hdots,
    List.head?_cons, List.drop_one, List.tail_cons, Bool.false_eq_true, if_false, if_true, false_and,
    reduceCtorEq, pure, Except.pure, bind, Except.bind]

end CaretSql.Url
