import EntityDiagram.Config.Discovery
import EntityDiagram.Proofs.Text.Cut
import EntityDiagram.Proofs.Text.Run

/-! # The host of an accepted configuration

A configuration that is loaded has passed the check, wherever it comes from. The check sees to it
that something follows the scheme of the base URL, and the endpoint loses only slashes at its end.
So requests go to the host that the base URL names whenever it names one. The check takes any
character for the beginning of a host, though, a slash among them, and a base URL of which nothing
but slashes follow the scheme loses those of the scheme as well.
-/

namespace EntityDiagram

open Text

/-! ## Hosts -/

/-- What a host in an address ends at. -/
def endsHost (c : Char) : Bool := c == '/' || c == '?' || c == '#'

/-- The run of characters that names the host, of what follows a scheme. -/
def hostRun (rest : List Char) : List Char := rest.takeWhile (!endsHost ·)

/-- The base URL names a host behind its scheme, and the endpoint is on that host. -/
def Service.ReachesHost (s : Service) : Prop :=
  ∃ scheme ∈ Config.schemes, ∃ rest, s.baseUrl.toList = scheme.toList ++ rest ∧
    hostRun rest ≠ [] ∧
    ∃ path, s.endpoint.toList = scheme.toList ++ hostRun rest ++ path ++ "/api/chat".toList

/-! ## What is accepted -/

namespace Config

theorem mem_schemes {scheme : String} :
    scheme ∈ schemes ↔ scheme = "http://" ∨ scheme = "https://" := by
  rw [schemes, List.mem_cons, List.mem_singleton]

theorem exists_scheme_of_namesHost {baseUrl : String} (named : namesHost baseUrl = true) :
    ∃ scheme ∈ schemes, ∃ first rest, baseUrl.toList = scheme.toList ++ first :: rest := by
  rw [namesHost] at named
  cases found : afterScheme? baseUrl with
  | none =>
    rw [found] at named
    cases named
  | some after =>
    obtain ⟨scheme, member, dropped⟩ := List.exists_of_findSome?_eq_some found
    cases after with
    | nil =>
      rw [found] at named
      cases named
    | cons first rest =>
      exact ⟨scheme, member, first, rest, dropStart?_eq_some_iff.mp dropped⟩

theorem namesHost_of_check {c : Config} (passed : c.check = .ok ()) :
    namesHost c.service.baseUrl = true := by
  rw [check] at passed
  split at passed
  · cases passed
  · split at passed
    · cases passed
    · split at passed
      · assumption
      · cases passed

theorem check_of_readFile {view : FileView} {path : Path} {c : Config}
    (accepted : readFile view path = .ok c) : c.check = .ok () := by
  rw [readFile] at accepted
  split at accepted
  · cases content : view.readText path with
    | error cause =>
      rw [content] at accepted
      cases accepted
    | ok text =>
      rw [content] at accepted
      cases read : ofText? text with
      | none =>
        simp only [read] at accepted
        cases accepted
      | some d =>
        simp only [read] at accepted
        cases checked : d.check with
        | error problem =>
          rw [checked] at accepted
          cases accepted
        | ok done =>
          rw [checked] at accepted
          cases accepted
          exact checked
  · cases accepted

/-- What is loaded has passed the check, the defaults included. -/
theorem check_of_load {view : FileView} {platform? named? : Option Path} {c : Config}
    (accepted : (load view platform? named?).value = .ok c) : c.check = .ok () := by
  have default : ({} : Config).check = .ok () := rfl
  cases named? with
  | some path => exact check_of_readFile accepted
  | none =>
    rw [load, Logged.value_bind] at accepted
    cases found : (discover view platform?).value with
    | none =>
      rw [found] at accepted
      cases accepted
      exact default
    | some place =>
      rw [found] at accepted
      exact check_of_readFile accepted

end Config

/-! ## Where requests go -/

theorem scheme_unique {scheme other : String} (member : scheme ∈ Config.schemes)
    (other_member : other ∈ Config.schemes) {rest others : List Char}
    (same : scheme.toList ++ rest = other.toList ++ others) : scheme = other := by
  rw [Config.mem_schemes] at member other_member
  rcases member with rfl | rfl
  · rcases other_member with rfl | rfl
    · rfl
    · simp at same
  · rcases other_member with rfl | rfl
    · simp at same
    · rfl

theorem hostRun_ne_nil_iff {first : Char} {rest : List Char} :
    hostRun (first :: rest) ≠ [] ↔ endsHost first = false := by
  rw [hostRun, List.takeWhile_cons]
  cases endsHost first <;> simp

/-- Slashes are taken from the end only, so they stop at the last character of a host. -/
theorem dropSlashes_append {before : List Char} (tail : List Char)
    (stop : Stops (· = '/') before.reverse) :
    ((before ++ tail).reverse.dropWhile (· = '/')).reverse =
      before ++ (tail.reverse.dropWhile (· = '/')).reverse := by
  rw [List.reverse_append, List.dropWhile_append]
  split
  · next all =>
    rw [List.isEmpty_iff] at all
    rw [all, dropWhile_of_stops stop, List.reverse_reverse, List.reverse_nil, List.append_nil]
  · rw [List.reverse_append, List.reverse_reverse]

namespace Service

/-- The host stays whole, and so does the scheme before it. -/
theorem endpoint_of_host {s : Service} {scheme : String} {rest : List Char}
    (written : s.baseUrl.toList = scheme.toList ++ rest) (host : hostRun rest ≠ []) :
    s.endpoint.toList = scheme.toList ++ hostRun rest ++
      ((rest.dropWhile (!endsHost ·)).reverse.dropWhile (· = '/')).reverse ++
        "/api/chat".toList := by
  have split : s.baseUrl.toList =
      (scheme.toList ++ hostRun rest) ++ rest.dropWhile (!endsHost ·) := by
    rw [written, List.append_assoc, hostRun, List.takeWhile_append_dropWhile]
  have stop : Stops (· = '/') (scheme.toList ++ hostRun rest).reverse := by
    refine Stops.reverse_append (fun c head => ?_) host scheme.toList
    have member := List.mem_reverse.mp (List.mem_of_mem_head? head)
    have inside := takeWhile_chars (!endsHost ·) rest c member
    refine decide_eq_false fun slash => ?_
    rw [slash] at inside
    cases inside
  rw [endpoint, String.toList_append, String.toList_ofList, split, dropSlashes_append _ stop]

theorem reachesHost_iff {s : Service} {scheme : String} (member : scheme ∈ Config.schemes)
    {first : Char} {rest : List Char} (written : s.baseUrl.toList = scheme.toList ++ first :: rest) :
    s.ReachesHost ↔ endsHost first = false := by
  constructor
  · rintro ⟨other, other_member, others, same, host, -⟩
    rw [written] at same
    obtain rfl := scheme_unique member other_member same
    rw [← List.append_cancel_left same] at host
    exact hostRun_ne_nil_iff.mp host
  · intro begins
    have host : hostRun (first :: rest) ≠ [] := hostRun_ne_nil_iff.mpr begins
    exact ⟨scheme, member, first :: rest, written, host, _, endpoint_of_host written host⟩

/-- The scheme is whole unless nothing but slashes follow it. -/
theorem scheme_prefix_endpoint_iff {s : Service} {scheme : String} (member : scheme ∈ Config.schemes)
    {rest : List Char} (written : s.baseUrl.toList = scheme.toList ++ rest) :
    scheme.toList <+: s.endpoint.toList ↔ ∃ c ∈ rest, c ≠ '/' := by
  rw [endpoint, String.toList_append, String.toList_ofList, written]
  constructor
  · intro whole
    by_cases slashes : ∀ c ∈ rest, c = '/'
    · have dropped : ∀ c ∈ rest.reverse, decide (c = '/') = true :=
        fun c inside => decide_eq_true (slashes c (List.mem_reverse.mp inside))
      rw [List.reverse_append, List.dropWhile_append_of_pos dropped] at whole
      rcases Config.mem_schemes.mp member with rfl | rfl
      · exact absurd whole (by decide)
      · exact absurd whole (by decide)
    · simpa using slashes
  · rintro ⟨c, inside, other⟩
    obtain ⟨before, after, rfl⟩ := List.append_of_mem inside
    have stop : Stops (· = '/') (scheme.toList ++ before ++ [c]).reverse := by
      rw [List.reverse_concat]
      exact stops_cons (decide_eq_false other)
    have split : scheme.toList ++ (before ++ c :: after) =
        (scheme.toList ++ before ++ [c]) ++ after := by
      simp only [List.append_assoc, List.singleton_append]
    rw [split, dropSlashes_append _ stop]
    simp only [List.append_assoc]
    exact List.prefix_append _ _

end Service

namespace Config

/-- Something follows the scheme of a base URL that is accepted. If a host begins there, the
endpoint is on that host; if none does, the base URL names no host. The scheme itself is lost when
nothing but slashes follow it. -/
theorem loaded_reachesHost_iff {view : FileView} {platform? named? : Option Path} {c : Config}
    (accepted : (load view platform? named?).value = .ok c) :
    ∃ scheme ∈ schemes, ∃ first rest,
      c.service.baseUrl.toList = scheme.toList ++ first :: rest ∧
      (c.service.ReachesHost ↔ endsHost first = false) ∧
      (scheme.toList <+: c.service.endpoint.toList ↔ ∃ other ∈ first :: rest, other ≠ '/') := by
  have named := namesHost_of_check (check_of_load accepted)
  obtain ⟨scheme, member, first, rest, written⟩ := exists_scheme_of_namesHost named
  exact ⟨scheme, member, first, rest, written, Service.reachesHost_iff member written,
    Service.scheme_prefix_endpoint_iff member written⟩

/-- A configuration file that gives nothing but the base URL. -/
def onlyBaseUrl (baseUrl : String) : Files where
  nodes := [(["c.toml"], .file (.bytes (Text.encode
    ("[generator]\nbase_url = \"" ++ baseUrl ++ "\"\n").toList)))]

private theorem accepted_of_toOption {c : Config} {loaded : Except ConfigError Config}
    (same : loaded.toOption = some c) : loaded = .ok c := by
  cases loaded with
  | ok other => exact congrArg Except.ok (Option.some.inj same)
  | error problem => cases same

/-- A port, a path and two slashes at the end. -/
theorem loaded_reachesHost_iff_path :
    (load (onlyBaseUrl "https://host:1/x//").view none (some ⟨"c.toml"⟩)).value =
      .ok { service := { baseUrl := "https://host:1/x//" } } ∧
    ({ baseUrl := "https://host:1/x//" } : Service).ReachesHost := by
  have accepted : (load (onlyBaseUrl "https://host:1/x//").view none (some ⟨"c.toml"⟩)).value =
      .ok { service := { baseUrl := "https://host:1/x//" } } :=
    accepted_of_toOption (by decide +kernel)
  obtain ⟨scheme, member, first, rest, written, reaches, -⟩ := loaded_reachesHost_iff accepted
  refine ⟨accepted, reaches.mpr ?_⟩
  rcases mem_schemes.mp member with rfl | rfl
  · exact absurd written (by simp)
  · have tails : "host:1/x//".toList = first :: rest :=
      @List.append_cancel_left _ "https://".toList _ _ written
    obtain ⟨rfl, -⟩ := List.cons.inj tails
    rfl

/-- Slashes alone are taken for a host, and the endpoint has the host `api`. -/
theorem accepted_without_host :
    (load (onlyBaseUrl "http:///").view none (some ⟨"c.toml"⟩)).value =
      .ok { service := { baseUrl := "http:///" } } ∧
    ({ baseUrl := "http:///" } : Service).endpoint = "http:/api/chat" ∧
    ¬ ({ baseUrl := "http:///" } : Service).ReachesHost := by
  refine ⟨accepted_of_toOption (by decide +kernel), by decide, fun reaches => ?_⟩
  have written : "http:///".toList = "http://".toList ++ '/' :: [] := rfl
  have begins : endsHost '/' = false := (Service.reachesHost_iff (by decide) written).mp reaches
  cases begins

end Config

end EntityDiagram
