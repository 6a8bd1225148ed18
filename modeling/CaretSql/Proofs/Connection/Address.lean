import CaretSql.Connection
import CaretSql.Proofs.Url.Authority

/-! A connection written as an address and read again. Its parts are written as they are, so each
comes back only if it holds none of the characters that the reader cuts addresses at, and nothing that
looks percent-encoded already. -/

namespace CaretSql

namespace Url

variable {s : List Char}

def ignored : List Char := "\t\n\r".toList

theorem clean_eq_self (hfree : s.Disjoint ignored)
    (hfirst : ∀ c ∈ s.head?, 0x20 < c.toNat) (hlast : ∀ c ∈ s.getLast?, 0x20 < c.toNat) :
    clean s = s := by
  have hdrop {s : List Char} (h : ∀ c ∈ s.head?, 0x20 < c.toNat) :
      s.dropWhile (fun c => decide (c.toNat ≤ 0x20)) = s := by
    cases s with
    | nil => rfl
    | cons c rest => exact List.dropWhile_cons_of_neg (by simpa using h c rfl)
  have hfilter : s.filter (fun c => c != '\t' && c != '\n' && c != '\r') = s := by
    rw [List.filter_eq_self]
    intro c hc
    have hnot : c ∉ ignored := hfree hc
    simpa [ignored, and_assoc] using hnot
  rw [clean, hdrop hfirst, hdrop (by simpa using hlast), List.reverse_reverse, hfilter]

theorem splitScheme?_postgres (s : List Char) :
    splitScheme? ("postgres://".toList ++ s) = some ("postgres".toList, '/' :: '/' :: s) := by
  rfl

end Url

namespace Connection

/-- A text that comes back out of an address: there is something in it, nothing of it looks
percent-encoded, and it has none of the characters that the address is cut at. -/
structure Carried (cut s : List Char) : Prop where
  ne_nil : s ≠ []
  plain : Text.Percent.Plain s
  free : s.Disjoint (Url.ignored ++ cut)

instance (cut s : List Char) : Decidable (Carried cut s) :=
  decidable_of_iff (s ≠ [] ∧ Text.Percent.Plain s ∧ s.Disjoint (Url.ignored ++ cut))
    ⟨fun h => ⟨h.1, h.2.1, h.2.2⟩, fun h => ⟨h.1, h.2, h.3⟩⟩

/-- Every part of the connection comes back out of the address that it is written into. -/
structure Portable (c : Connection) : Prop where
  host : ∀ host ∈ c.host, Url.Host.Kept host.toList
  port : c.port < 65536
  user : ∀ user ∈ c.user, Carried (':' :: Url.ends) user.toList
  password : ∀ password ∈ c.password, c.user.isSome ∧ Carried Url.ends password.toList
  database : ∀ database ∈ c.database, Carried "?#".toList database.toList ∧
    (∀ segment ∈ database.toList.splitOn '/', ¬ Url.Path.IsDots segment) ∧
    ∀ last ∈ database.toList.getLast?, 0x20 < last.toNat

/-- `c'` is the connection with its host written out and its other texts percent-encoded. -/
structure ReadsAs (c c' : Connection) : Prop where
  host : c'.hostText = c.hostText
  port : c'.port = c.port
  database : c'.database.map (Text.Percent.decode? ·.toList) = c.database.map (some ·.toList)
  user : c'.user.map (Text.Percent.decode? ·.toList) = c.user.map (some ·.toList)
  password : c'.password.map (Text.Percent.decode? ·.toList) = c.password.map (some ·.toList)

variable {c : Connection}

def userinfo (c : Connection) : List Char :=
  match c.user, c.password with
  | none, _ => []
  | some user, none => user.toList
  | some user, some password => user.toList ++ ':' :: password.toList

theorem Portable.disjoint_userinfo (h : c.Portable) :
    c.userinfo.Disjoint (Url.ignored ++ Url.ends) := by
  have huser : ∀ user ∈ c.user, user.toList.Disjoint (Url.ignored ++ Url.ends) := fun user hmem =>
    List.disjoint_of_subset_right (by decide) (h.user user hmem).free
  unfold userinfo
  split
  · exact List.disjoint_nil_left _
  · next user hmem _ => exact huser user hmem
  · next user password hmem hpassword =>
    exact List.disjoint_append_left.mpr ⟨huser user hmem,
      List.disjoint_cons_left.mpr ⟨by decide, (h.password password hpassword).2.free⟩⟩

theorem Portable.kept_hostText (h : c.Portable) : Url.Host.Kept c.hostText.toList := by
  unfold hostText
  cases hhost : c.host with
  | none => decide
  | some host => exact h.host host hhost

theorem Portable.toList_url (h : c.Portable) {s : String} (hs : c.url = .ok s) :
    ∃ database, c.database = some database ∧ s.toList = "postgres://".toList ++
      (Url.userPart c.userinfo ++ (Url.hostPart c.hostText.toList c.port ++ '/' :: database.toList)) := by
  cases hdatabase : c.database with
  | none =>
    rw [url, hdatabase] at hs
    cases hs
  | some database =>
    refine ⟨database, rfl, ?_⟩
    rw [url, hdatabase] at hs
    rw [← Except.ok.inj hs, userinfo, Url.userPart, Url.hostPart]
    cases huser : c.user with
    | none => simp
    | some user =>
      have hne := (h.user user huser).ne_nil
      cases hpassword : c.password with
      | none => simp [hne]
      | some password => simp

theorem Portable.clean_url (h : c.Portable) {database : String} (hdatabase : c.database = some database) :
    Url.clean ("postgres://".toList ++ (Url.userPart c.userinfo ++
        (Url.hostPart c.hostText.toList c.port ++ '/' :: database.toList))) =
      "postgres://".toList ++ (Url.userPart c.userinfo ++
        (Url.hostPart c.hostText.toList c.port ++ '/' :: database.toList)) := by
  obtain ⟨hcarried, -, hlast⟩ := h.database database hdatabase
  have huser : (Url.userPart c.userinfo).Disjoint Url.ignored := by
    have hinfo := (List.disjoint_append_right.mp h.disjoint_userinfo).1
    unfold Url.userPart
    split
    · exact List.disjoint_nil_left _
    · exact List.disjoint_append_left.mpr ⟨hinfo, by decide⟩
  have hhost : (Url.hostPart c.hostText.toList c.port).Disjoint Url.ignored :=
    List.disjoint_of_subset_right (by decide) (Url.disjoint_hostPart h.kept_hostText c.port)
  have hbase : database.toList.Disjoint Url.ignored := (List.disjoint_append_right.mp hcarried.free).1
  apply Url.clean_eq_self
  · simp only [List.disjoint_append_left, List.disjoint_cons_left]
    exact ⟨by decide, huser, hhost, by decide, hbase⟩
  · intro d hd
    obtain rfl : 'p' = d := Option.some.inj hd
    decide
  · intro d hd
    obtain ⟨front, hback⟩ : ∃ front, "postgres://".toList ++ (Url.userPart c.userinfo ++
        (Url.hostPart c.hostText.toList c.port ++ '/' :: database.toList)) = front ++ database.toList :=
      ⟨"postgres://".toList ++ (Url.userPart c.userinfo ++
        (Url.hostPart c.hostText.toList c.port ++ ['/'])), by simp⟩
    rw [hback, List.getLast?_append_of_ne_nil _ hcarried.ne_nil] at hd
    exact hlast d hd

theorem Portable.takeWhile_userinfo (h : c.Portable) :
    c.userinfo.takeWhile (· != ':') = (c.user.getD "").toList := by
  have hcolon : ∀ user ∈ c.user, ':' ∉ user.toList := fun user hmem hcolon =>
    (h.user user hmem).free hcolon (by decide)
  unfold userinfo
  split
  · next huser => rw [huser]; rfl
  · next user huser _ =>
    rw [huser]
    exact Text.takeWhile_ne_all (hcolon user huser)
  · next user password huser _ =>
    rw [huser]
    exact Text.takeWhile_ne (hcolon user huser) _

theorem Portable.drop_userinfo (h : c.Portable) :
    c.userinfo.drop ((c.user.getD "").toList.length + 1) = (c.password.getD "").toList := by
  unfold userinfo
  split
  · next huser =>
    cases hpassword : c.password with
    | none => rfl
    | some password =>
      have := (h.password password hpassword).1
      rw [huser] at this
      cases this
  · next user huser hpassword => rw [huser, hpassword]; simp
  · next user password huser hpassword => rw [huser, hpassword]; simp

def parts (c : Connection) (database : String) : Url where
  scheme := "postgres".toList
  username := Text.Percent.encode Url.isUserinfoKept (c.user.getD "").toList
  password := if (c.password.getD "").toList.isEmpty then none
    else some (Text.Percent.encode Url.isUserinfoKept (c.password.getD "").toList)
  host := some c.hostText.toList
  port := some c.port
  path := '/' :: Text.Percent.encode Url.Path.isKept database.toList

theorem Portable.parse_url (h : c.Portable) {s : String} (hs : c.url = .ok s) :
    ∃ database, c.database = some database ∧ Url.parse s.toList = .ok (c.parts database) := by
  obtain ⟨database, hdatabase, htext⟩ := h.toList_url hs
  obtain ⟨hcarried, hdots, hlast⟩ := h.database database hdatabase
  refine ⟨database, hdatabase, ?_⟩
  have hkept := h.kept_hostText
  have hscheme : Url.webSchemes.lookup "postgres".toList = none := by decide
  have huser := (List.disjoint_append_right.mp h.disjoint_userinfo).2
  have houtside := Url.disjoint_hostPart hkept c.port
  have hat : '@' ∉ Url.hostPart c.hostText.toList c.port := fun hmem => houtside hmem (by decide)
  have hend : '?' ∉ database.toList ∧ '#' ∉ database.toList :=
    ⟨fun hmem => hcarried.free hmem (by decide), fun hmem => hcarried.free hmem (by decide)⟩
  have hclean := h.clean_url hdatabase
  rw [Url.parse, htext, hclean, Url.splitScheme?_postgres]
  dsimp only
  rw [if_neg (by decide), if_neg (by decide)]
  have hsplit := Url.splitUser_userPart huser
    (List.disjoint_of_subset_right (by decide) houtside) hat database.toList
  simp only [Url.parseAuthority, hscheme, Option.isSome_none, hsplit, bind, Except.bind]
  rw [Url.parseHost_parts hscheme hkept h.port hend hcarried.plain hdots, h.takeWhile_userinfo,
    h.drop_userinfo]
  rfl

/-- a part of an address as a connection takes it: nothing if there is nothing in it -/
def filled (s : List Char) : Option String := if s.isEmpty then none else some (String.ofList s)

theorem filled_encode (keep : Char → Bool) (s : List Char) :
    filled (Text.Percent.encode keep s) =
      (if s.isEmpty then none else some (Text.Percent.encode keep s)).map String.ofList := by
  cases s with
  | nil => rfl
  | cons c rest =>
    have hne := Text.Percent.encode_ne_nil keep (List.cons_ne_nil c rest)
    exact if_neg (by simpa using hne)

theorem decode?_filled (keep : Char → Bool) {cut : List Char} {part : Option String}
    (h : ∀ text ∈ part, Carried cut text.toList) :
    (filled (Text.Percent.encode keep (part.getD "").toList)).map (Text.Percent.decode? ·.toList) =
      part.map (some ·.toList) := by
  rw [filled_encode]
  cases part with
  | none => rfl
  | some text =>
    have hcarried := h text rfl
    have hne : text.toList.isEmpty = false := by simpa using hcarried.ne_nil
    rw [Option.getD_some, hne, if_neg Bool.false_ne_true, Option.map_some, Option.map_some,
      Option.map_some, String.toList_ofList, Text.Percent.decode?_encode keep hcarried.plain]

theorem database_ofUrl {u : Url} {s : List Char} (h : u.path = '/' :: s) :
    (ofUrl u).database = filled s := by
  rw [ofUrl, h]
  cases s <;> rfl

/-- A portable connection comes back out of its address, its texts percent-encoded. -/
theorem address_keeps_connection (h : c.Portable) {s : String} (hs : c.url = .ok s) :
    ∃ c', parse s.toList = .ok c' ∧ c.ReadsAs c' := by
  obtain ⟨database, hdatabase, hparse⟩ := h.parse_url hs
  have hscheme : (c.parts database).scheme ∈ schemes := List.mem_cons_self
  refine ⟨ofUrl (c.parts database), ?_, ?_, rfl, ?_, ?_, ?_⟩
  · rw [parse, hparse]
    exact if_pos hscheme
  · exact String.ofList_toList
  · have hpath : (c.parts database).path =
        '/' :: Text.Percent.encode Url.Path.isKept (c.database.getD "").toList := by
      rw [hdatabase]
      rfl
    rw [database_ofUrl hpath]
    exact decode?_filled Url.Path.isKept fun text hmem =>
      (h.database text hmem).1
  · exact decode?_filled Url.isUserinfoKept h.user
  · have hread : (ofUrl (c.parts database)).password =
        filled (Text.Percent.encode Url.isUserinfoKept (c.password.getD "").toList) :=
      (filled_encode _ _).symm
    rw [hread]
    exact decode?_filled Url.isUserinfoKept fun text hmem => (h.password text hmem).2

/-- A host in brackets, at-signs in user and password, a percent sign that encodes nothing, and a
segment of three dots. -/
theorem address_keeps_connection_of_signs :
    let c : Connection := { host := "[::1]", port := 6543, user := "a@b", password := "p:w@% ä",
                            database := "my db/..." }
    c.Portable ∧ c.url = .ok "postgres://a@b:p:w@% ä@[::1]:6543/my db/..." ∧
      ∃ c', parse "postgres://a@b:p:w@% ä@[::1]:6543/my db/...".toList = .ok c' ∧ c.ReadsAs c' := by
  intro c
  have hlast : ∀ last ∈ "my db/...".toList.getLast?, 0x20 < last.toNat := by
    rintro _ ⟨⟩
    decide
  have hportable : c.Portable := by
    refine ⟨by decide +kernel, by decide, by decide +kernel, by decide +kernel, ?_⟩
    rintro _ ⟨⟩
    exact ⟨by decide +kernel, by decide +kernel, hlast⟩
  have hurl : c.url = .ok "postgres://a@b:p:w@% ä@[::1]:6543/my db/..." := by decide +kernel
  exact ⟨hportable, hurl, address_keeps_connection hportable hurl⟩

/-- A slash in a password ends the authority, so that the user is taken for the host and the head of
the password for its port. -/
theorem slash_in_password_is_not_kept :
    ¬ ∀ (c : Connection) (s : String), c.port < 65536 → c.url = .ok s →
      ∃ c', parse s.toList = .ok c' ∧ c.ReadsAs c' := by
  intro h
  obtain ⟨c', hc', -⟩ := h { user := "admin", password := "pa/ss", database := "qdb" }
    "postgres://admin:pa/ss@localhost:5432/qdb" (by decide) (by decide +kernel)
  have hbad : parse "postgres://admin:pa/ss@localhost:5432/qdb".toList = .error (.badUrl .badPort) := by
    decide +kernel
  rw [hbad] at hc'
  cases hc'

end Connection

end CaretSql
