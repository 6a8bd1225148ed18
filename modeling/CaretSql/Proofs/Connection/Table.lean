import CaretSql.Proofs.CommandLine.Anchor

/-! The connections of a configuration file, as the file has them. -/

namespace CaretSql.Config

variable {α β : Type} {config : Config} {path : Files.Path}
  {content : Except Files.Error (List UInt8)}

/-- what the file says about the connection of a name -/
def table? (content : Except Files.Error (List UInt8)) (name : String) : Option Json := do
  let s ← (Files.textOf content).toOption
  let v ← Toml.parse? s
  let r ← Json.Record.ofJson? true ["feed", "execution", "connections"] v.toJson
  (← r.fields.lookup "connections").field? name

theorem lookup_of_mapM {f : α → Option β} {entries : List (String × α)} {out : List (String × β)}
    (h : (entries.mapM fun p => (f p.2).map (p.1, ·)) = some out) (name : String) :
    out.lookup name = (entries.lookup name).bind f := by
  induction entries generalizing out with
  | nil =>
    obtain rfl := Option.some.inj h
    rfl
  | cons p entries ih =>
    rw [List.mapM_cons] at h
    obtain ⟨q, hq, h⟩ := Option.bind_eq_some_iff.mp h
    obtain ⟨rest, hrest, h⟩ := Option.bind_eq_some_iff.mp h
    obtain rfl := Option.some.inj h
    obtain ⟨b, hb, rfl⟩ := Option.map_eq_some_iff.mp hq
    rw [List.lookup_cons, List.lookup_cons, ih hrest]
    cases name == p.1 with
    | true => exact hb.symm
    | false => rfl

theorem lookup_connectionsOfJson? {j : Json} {connections : List (String × Connection)}
    (h : connectionsOfJson? true j = some connections) (name : String) :
    connections.lookup name = (j.field? name).bind (Connection.ofJson? true) := by
  unfold connectionsOfJson? at h
  split at h
  · exact lookup_of_mapM h name
  · cases h

theorem connection?_of_ofJson? {j : Json} (h : ofJson? true j = some config) (name : String) :
    ∃ r, Json.Record.ofJson? true ["feed", "execution", "connections"] j = some r ∧
      config.connections.lookup name =
        ((r.fields.lookup "connections").bind (Json.field? name)).bind
          (Connection.ofJson? true) := by
  obtain ⟨r, hr, h⟩ := Option.bind_eq_some_iff.mp h
  obtain ⟨feed, -, h⟩ := Option.bind_eq_some_iff.mp h
  obtain ⟨execution, -, h⟩ := Option.bind_eq_some_iff.mp h
  obtain ⟨connections, hconnections, h⟩ := Option.bind_eq_some_iff.mp h
  obtain rfl := Option.some.inj h
  refine ⟨r, hr, ?_⟩
  unfold Json.Record.withDefault at hconnections
  split at hconnections
  · next j hj =>
    rw [hj, Option.bind_some]
    exact lookup_connectionsOfJson? hconnections name
  · next hj =>
    obtain rfl := Option.some.inj hconnections
    rw [hj]
    rfl

theorem connection?_of_ofFile (h : ofFile path content = .ok config) (name : Option String) :
    config.connection? name =
      (table? content (name.getD defaultName)).bind (Connection.ofJson? true) := by
  unfold ofFile at h
  unfold table?
  split at h
  · next e htext =>
    split at h
    · obtain rfl := Except.ok.inj h
      rw [htext]
      rfl
    · cases h
  · next s htext =>
    unfold ofText at h
    split at h
    · cases h
    · next loaded hloaded =>
      obtain ⟨_, -, h⟩ := bind_eq_ok.mp h
      obtain rfl := Except.ok.inj h
      obtain ⟨v, hv, hloaded⟩ := Option.bind_eq_some_iff.mp hloaded
      obtain ⟨r, hr, hlookup⟩ := connection?_of_ofJson? hloaded (name.getD defaultName)
      rw [connection?, hlookup, htext]
      simp [Except.toOption, hv, hr]

end CaretSql.Config
