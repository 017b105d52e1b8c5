import RouteServer.Proofs.Endpoint.Fitting
import RouteServer.Proofs.Endpoint.Reading
import RouteServer.Settings.Basic

/-! # The text of an endpoint

Settings hand an endpoint on as its text. The text names the endpoint if it is accepted again and gives the same
endpoint. That of a TCP endpoint always does; that of a Unix socket does where the path is one that a URL leaves
alone.
-/

namespace RouteServer

namespace Endpoint

/-- Equality of endpoints. Paths are equal if they lead the same way. -/
def Same : Endpoint → Endpoint → Prop
  | unix a, unix b => Path.Same a b
  | a, b => a = b

theorem Same.refl (e : Endpoint) : Same e e := by
  cases e with
  | unix path => exact Path.Same.refl path
  | tcp => rfl

/-- The text of the endpoint is accepted, and read as the endpoint again. -/
def NamedByText (e : Endpoint) : Prop := ∃ again, parse e.render = .ok again ∧ again.Same e

variable {text path host : String} {port : UInt16} {e : Endpoint} {url : Url}

/-! ## What is accepted -/

theorem parse_eq_ok_iff : parse text = .ok e ↔ ∃ url, Url.parse text = .ok url ∧ ofUrl text url = .ok e := by
  rw [parse]
  cases Url.parse text <;> simp

theorem ofUrl_eq_ok (h : ofUrl text url = .ok e) :
    (url.scheme = "unix" ∧ url.path ≠ "" ∧ url.path ≠ "/" ∧ e = unix url.path) ∨
    (url.scheme = "tcp" ∧ ∃ host port, url.host = some host ∧ url.port = some port ∧ e = tcp host port) := by
  unfold ofUrl at h
  split at h
  · rename_i hscheme
    split at h
    · cases h
    · rename_i hpath
      rw [not_or] at hpath
      exact .inl ⟨hscheme, hpath.1, hpath.2, (Except.ok.inj h).symm⟩
  · rename_i hscheme
    split at h
    · cases h
    · cases h
    · rename_i host port hhost hport
      exact .inr ⟨hscheme, host, port, hhost, hport, (Except.ok.inj h).symm⟩
  · cases h

/-! ## Reading the text again -/

theorem parse_render_tcp (h : Url.IsHost host.toList) : parse (tcp host port).render = .ok (tcp host port) := by
  have hvisible : ∀ c ∈ host.toList ++ ':' :: (toString port.toNat).toList, ' ' < c := fun c hc =>
    (Url.mem_host_port h port c hc).1
  have hrender : (tcp host port).render =
      .ofList (("tcp" ++ "://").toList ++ (host.toList ++ ':' :: (toString port.toNat).toList)) := by
    apply String.toList_inj.mp
    simp [render]
  rw [parse_eq_ok_iff, hrender, Url.parse_authority (.inr rfl), Url.cleanEnd_visible hvisible, Url.readAuthority_host h]
  exact ⟨_, rfl, by rw [String.ofList_toList]; rfl⟩

theorem render_unix (path : String) :
    (unix path).render = .ofList (("unix" ++ "://").toList ++ path.toList) := by
  apply String.toList_inj.mp
  simp [render]

theorem parse_render_slash {cs : List Char} (hpath : path.toList = '/' :: cs)
    (hvisible : ∀ c ∈ path.toList, ' ' < c) :
    parse (unix path).render =
      ofUrl (unix path).render ⟨"unix", none, none, .ofList (Url.readPath false cs)⟩ := by
  have hurl : Url.parse (unix path).render = .ok ⟨"unix", none, none, .ofList (Url.readPath false cs)⟩ := by
    rw [render_unix, Url.parse_authority (.inl rfl), Url.cleanEnd_visible hvisible, hpath]
    exact Url.readAuthority_slash "unix" cs
  rw [parse, hurl]

theorem ofUrl_unix {text path : String} (hempty : path ≠ "") (hroot : path ≠ "/") :
    ofUrl text ⟨"unix", none, none, path⟩ = .ok (unix path) :=
  if_neg (not_or.mpr ⟨hempty, hroot⟩)

theorem parse_render_unix (h : Url.IsPath path.toList) (hroot : path ≠ "/") :
    parse (unix path).render = .ok (unix path) := by
  obtain ⟨cs, hcs⟩ := h.exists_cons
  have hread : Url.readPath false cs = path.toList := by
    rw [hcs] at h ⊢
    exact h.readPath_eq
  have hempty : path ≠ "" := by
    rintro rfl
    cases hcs
  rw [parse_render_slash hcs fun c hc => Url.visible_of_plain (h.plain c hc), hread, String.ofList_toList]
  exact ofUrl_unix hempty hroot

theorem parse_render (h : parse text = .ok e) (habsolute : ∀ path, e = unix path → Path.isAbsolute path = true) :
    parse e.render = .ok e := by
  obtain ⟨url, hurl, hof⟩ := parse_eq_ok_iff.mp h
  rcases ofUrl_eq_ok hof with ⟨hscheme, -, hroot, rfl⟩ | ⟨hscheme, host, port, hhost, -, rfl⟩
  · exact parse_render_unix ((Url.isRead_of_parse hurl (.inl hscheme)).path (habsolute _ rfl)) hroot
  · exact parse_render_tcp ((Url.isRead_of_parse hurl (.inr hscheme)).host host hhost)

/-! ## Unix sockets -/

theorem fitsUrl_of_named (h : NamedByText (unix path)) : Path.FitsUrl path := by
  obtain ⟨again, hparse, hsame⟩ := h
  obtain ⟨url, hurl, hof⟩ := parse_eq_ok_iff.mp hparse
  rw [render_unix, Url.parse_authority (.inl rfl)] at hurl
  rcases ofUrl_eq_ok hof with ⟨-, hempty, -, rfl⟩ | ⟨-, host, port, -, -, rfl⟩
  · exact Path.fitsUrl_of_same (Url.isPath_of_readAuthority hurl hempty) hsame
  · cases hsame

theorem named_of_fitsUrl (h : Path.FitsUrl path) (hsteps : Path.steps path ≠ []) : NamedByText (unix path) := by
  obtain ⟨cs, hcs⟩ := List.head?_eq_some_iff.mp (of_decide_eq_true h.absolute)
  have hsame := h.same hcs
  refine ⟨unix (.ofList (Url.readPath false cs)), ?_, hsame⟩
  rw [parse_render_slash hcs fun c hc => Url.visible_of_plain (h.plain c hc)]
  -- Neither the empty path nor the root has a step.
  refine ofUrl_unix (fun hempty => hsteps ?_) (fun hroot => hsteps ?_)
  · rw [← hsame.steps, hempty]
    rfl
  · rw [← hsame.steps, hroot]
    rfl

/-- The text of an endpoint that was accepted names it, but for a Unix socket whose path begins without a slash. -/
theorem named_iff_of_parse (h : parse text = .ok e) :
    NamedByText e ↔ ∀ path, e = unix path → Path.isAbsolute path = true := by
  constructor
  · rintro hnamed path rfl
    exact (fitsUrl_of_named hnamed).absolute
  · intro habsolute
    exact ⟨e, parse_render h habsolute, .refl e⟩

end Endpoint

theorem Settings.defaultEndpoint_named_iff (env : Environment) :
    (defaultEndpoint env).NamedByText ↔ Path.FitsUrl (runtimeDirectory env) := by
  have hdirectory : Url.IsSegment "bgpd".toList := ⟨List.all_iff_forall_prop.mp rfl, by decide, rfl, rfl⟩
  have hsocket : Url.IsSegment "bgpd.sock".toList := ⟨List.all_iff_forall_prop.mp rfl, by decide, rfl, rfl⟩
  rw [← Path.fitsUrl_join hdirectory, ← Path.fitsUrl_join hsocket]
  exact ⟨Endpoint.fitsUrl_of_named, fun h => Endpoint.named_of_fitsUrl h (Path.steps_join_ne_nil hsocket rfl)⟩

/-- Which endpoints are named by their text: those that were accepted, but for Unix sockets whose path begins without
a slash, and the default one where the directory of the session is the same path in a URL. -/
theorem text_names_endpoint (text : String) (env : Environment) :
    (∀ e, Endpoint.parse text = .ok e →
      (e.NamedByText ↔ ∀ path, e = .unix path → Path.isAbsolute path = true)) ∧
    ((Settings.defaultEndpoint env).NamedByText ↔ Path.FitsUrl (Settings.runtimeDirectory env)) :=
  ⟨fun _ => Endpoint.named_iff_of_parse, Settings.defaultEndpoint_named_iff env⟩

theorem loopback_named_by_text : Endpoint.parse "tcp://[::1]:9179/" = .ok (.tcp "[::1]" 9179) ∧
    (Endpoint.tcp "[::1]" 9179).NamedByText :=
  ⟨rfl, ((text_names_endpoint "tcp://[::1]:9179/" {}).1 _ rfl).mpr nofun⟩

theorem opaque_path_not_named : Endpoint.parse "unix:run/ctl.sock" = .ok (.unix "run/ctl.sock") ∧
    Endpoint.parse (Endpoint.unix "run/ctl.sock").render = .ok (.unix "/ctl.sock") ∧
    ¬ (Endpoint.unix "run/ctl.sock").NamedByText := by
  refine ⟨rfl, rfl, ?_⟩
  rintro ⟨again, hparse, hsame⟩
  obtain rfl := Except.ok.inj hparse
  have hstart : Path.start "/ctl.sock".toList = Path.start "run/ctl.sock".toList := hsame.start
  exact absurd hstart (by decide)

end RouteServer
