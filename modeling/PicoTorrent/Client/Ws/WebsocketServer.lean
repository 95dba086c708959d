import Mathlib.Data.Finset.Basic
import PicoTorrent.Core.Text

namespace PicoTorrent

/-! The secure control server: its access token, connection admission and the registry of
open connections. -/

/-- `websocketpp::connection_hdl`, compared by owner as `std::set` with `std::owner_less`
does. -/
abbrev ConnectionHdl := Nat

/-- The settings of `configuration::instance()` the server reads or writes. -/
structure Configuration where
  websocketAccessToken : StdString
  websocketCertificateFile : StdString
  websocketCertificatePassword : StdString
  websocketCipherList : StdString
  websocketListenPort : Nat
  deriving DecidableEq

def Configuration.setWebsocketAccessToken (cfg : Configuration) (token : StdString) :
    Configuration :=
  { cfg with websocketAccessToken := token }

namespace Ws

def defaultTokenSize : Nat := 20

/-- The state of `websocket_server` the callbacks read and write. -/
structure WebsocketServer where
  configuredToken : StdString
  connections : Finset ConnectionHdl

/-- The constructed server, the configuration afterwards, and the tokens the constructor
wrote to it. -/
structure Constructed where
  server : WebsocketServer
  cfg : Configuration
  writes : List StdString

/-- `websocket_server::websocket_server`; `generate` is
`random_string_generator::generate`. -/
def websocketServer (cfg : Configuration) (generate : Nat → StdString) : Constructed :=
  let configuredToken := cfg.websocketAccessToken
  if configuredToken.isEmpty then
    let configuredToken := generate defaultTokenSize
    { server := { configuredToken, connections := ∅ }
      cfg := cfg.setWebsocketAccessToken configuredToken
      writes := [configuredToken] }
  else
    { server := { configuredToken, connections := ∅ }, cfg, writes := [] }

theorem websocketServer_of_ne_nil {cfg : Configuration} (stored : cfg.websocketAccessToken ≠ [])
    (generate : Nat → StdString) :
    websocketServer cfg generate =
      { server := { configuredToken := cfg.websocketAccessToken, connections := ∅ }, cfg,
        writes := [] } := by
  simp [websocketServer, stored]

theorem websocketServer_of_nil {cfg : Configuration} (missing : cfg.websocketAccessToken = [])
    (generate : Nat → StdString) :
    websocketServer cfg generate =
      { server := { configuredToken := generate defaultTokenSize, connections := ∅ }
        cfg := cfg.setWebsocketAccessToken (generate defaultTokenSize)
        writes := [generate defaultTokenSize] } := by
  simp [websocketServer, missing]

@[simp] theorem connections_websocketServer (cfg : Configuration) (generate : Nat → StdString) :
    (websocketServer cfg generate).server.connections = ∅ := by
  by_cases missing : cfg.websocketAccessToken = []
  · rw [websocketServer_of_nil missing]
  · rw [websocketServer_of_ne_nil missing]

namespace WebsocketServer

variable (server : WebsocketServer)

/-- `websocket_server::on_validate`, given the `X-PicoTorrent-Token` header of the
handshake (empty when absent). -/
def onValidate (token : StdString) : Bool :=
  if token.isEmpty then false else server.configuredToken.compare token == 0

def onOpen (hdl : ConnectionHdl) : WebsocketServer :=
  { server with connections := insert hdl server.connections }

def onClose (hdl : ConnectionHdl) : WebsocketServer :=
  { server with connections := server.connections.erase hdl }

theorem onValidate_eq_true_iff (token : StdString) :
    server.onValidate token = true ↔ token ≠ [] ∧ token = server.configuredToken := by
  by_cases empty : token = []
  · simp [onValidate, empty]
  · rw [onValidate, if_neg (by simpa using empty), beq_iff_eq, StdString.compare_eq_zero_iff]
    exact ⟨fun same => ⟨empty, same.symm⟩, fun accepted => accepted.2.symm⟩

@[simp] theorem connections_onOpen (hdl : ConnectionHdl) :
    (server.onOpen hdl).connections = insert hdl server.connections := rfl

@[simp] theorem connections_onClose (hdl : ConnectionHdl) :
    (server.onClose hdl).connections = server.connections.erase hdl := rfl

end WebsocketServer

/-! The network thread's events and the order websocketpp dispatches them in. -/

/-- A callback the network thread runs: `validate` carries the handshake's
`X-PicoTorrent-Token` header. -/
inductive Event where
  | validate (hdl : ConnectionHdl) (token : StdString)
  | «open» (hdl : ConnectionHdl)
  | message (hdl : ConnectionHdl)
  | close (hdl : ConnectionHdl)
  deriving DecidableEq

namespace WebsocketServer

/-- The handler `set_*_handler` bound for the event; `on_validate` and `on_message` change
nothing. -/
def handle (server : WebsocketServer) : Event → WebsocketServer
  | .validate _ _ => server
  | .open hdl => server.onOpen hdl
  | .message _ => server
  | .close hdl => server.onClose hdl

def run (server : WebsocketServer) (trace : List Event) : WebsocketServer :=
  trace.foldl handle server

@[simp] theorem run_nil (server : WebsocketServer) : server.run [] = server := rfl

@[simp] theorem run_snoc (server : WebsocketServer) (trace : List Event) (event : Event) :
    server.run (trace ++ [event]) = (server.run trace).handle event := by
  simp [run]

end WebsocketServer

/-- The orders in which websocketpp runs a server's callbacks: a connection's handshake is
validated once; it opens only after `on_validate` accepted its header, and never after it
closed; it closes at most once, and only after it opened. -/
inductive Dispatched (server : WebsocketServer) : List Event → Prop
  | nil : Dispatched server []
  | validate {trace hdl token} : Dispatched server trace →
      (∀ earlier, .validate hdl earlier ∉ trace) →
      Dispatched server (trace ++ [.validate hdl token])
  | «open» {trace hdl token} : Dispatched server trace → .validate hdl token ∈ trace →
      server.onValidate token = true → .close hdl ∉ trace →
      Dispatched server (trace ++ [.open hdl])
  | message {trace hdl} : Dispatched server trace → Dispatched server (trace ++ [.message hdl])
  | close {trace hdl} : Dispatched server trace → .open hdl ∈ trace → .close hdl ∉ trace →
      Dispatched server (trace ++ [.close hdl])

namespace Dispatched

variable {server : WebsocketServer} {trace : List Event}

theorem accepted_of_open (dispatched : Dispatched server trace) {hdl : ConnectionHdl}
    (opened : .open hdl ∈ trace) :
    ∃ token, .validate hdl token ∈ trace ∧ server.onValidate token = true := by
  induction dispatched with
  | nil => cases opened
  | validate _ _ induction | message _ induction | close _ _ _ induction =>
      obtain ⟨token, validated, accepted⟩ := induction (by simpa using opened)
      exact ⟨token, List.mem_append_left _ validated, accepted⟩
  | @«open» trace other token _ validated accepted _ induction =>
      rcases List.mem_append.mp opened with earlier | now
      · obtain ⟨token, validated, accepted⟩ := induction earlier
        exact ⟨token, List.mem_append_left _ validated, accepted⟩
      · obtain rfl : hdl = other := by simpa using now
        exact ⟨token, List.mem_append_left _ validated, accepted⟩

/-- A connection is validated with one header only. -/
theorem token_unique (dispatched : Dispatched server trace) {hdl : ConnectionHdl}
    {token other : StdString} (validated : .validate hdl token ∈ trace)
    (validatedOther : .validate hdl other ∈ trace) : token = other := by
  induction dispatched with
  | nil => cases validated
  | «open» _ _ _ _ induction | message _ induction | close _ _ _ induction =>
      simp_all
  | @validate trace fresh newToken _ unseen induction =>
      simp only [List.mem_append, List.mem_singleton, Event.validate.injEq]
        at validated validatedOther
      rcases validated with earlier | ⟨rfl, rfl⟩ <;>
        rcases validatedOther with earlierOther | ⟨same, rfl⟩
      · exact induction earlier earlierOther
      · exact (unseen _ (same ▸ earlier)).elim
      · exact (unseen _ earlierOther).elim
      · rfl

/-- The registry holds the connections that were there or have opened since, and have not
closed. -/
theorem mem_connections_run (dispatched : Dispatched server trace) (hdl : ConnectionHdl) :
    hdl ∈ (server.run trace).connections ↔
      (hdl ∈ server.connections ∨ .open hdl ∈ trace) ∧ .close hdl ∉ trace := by
  induction dispatched with
  | nil => simp
  | validate _ _ induction | message _ induction => simpa [WebsocketServer.handle] using induction
  | @«open» trace opened _ _ _ _ notClosed induction =>
      by_cases same : hdl = opened
      · subst same
        simpa [WebsocketServer.handle] using notClosed
      · simpa [WebsocketServer.handle, same] using induction
  | @close trace closed _ _ _ induction =>
      by_cases same : hdl = closed
      · simp [WebsocketServer.handle, same]
      · simpa [WebsocketServer.handle, same] using induction

end Dispatched

/-- The registry after `trace` is the set of connections opened and not closed; each
member presented the configured token, and a connection that presented another header, or
has closed, is not a member. -/
structure RegistryInvariant (server : WebsocketServer) (trace : List Event) : Prop where
  open_not_closed :
    ∀ hdl, hdl ∈ (server.run trace).connections ↔ .open hdl ∈ trace ∧ .close hdl ∉ trace
  presented_token :
    ∀ hdl ∈ (server.run trace).connections,
      ∃ token, .validate hdl token ∈ trace ∧ token ≠ [] ∧ token = server.configuredToken
  rejected_not_member :
    ∀ hdl token, .validate hdl token ∈ trace →
      token = [] ∨ token ≠ server.configuredToken →
      hdl ∉ (server.run trace).connections
  closed_not_member : ∀ hdl, .close hdl ∈ trace → hdl ∉ (server.run trace).connections

/-- From construction on, whatever the handshakes' headers and however websocketpp
interleaves the connections' events. -/
theorem registryInvariant_websocketServer (cfg : Configuration) (generate : Nat → StdString)
    {trace : List Event} (dispatched : Dispatched (websocketServer cfg generate).server trace) :
    RegistryInvariant (websocketServer cfg generate).server trace := by
  have registry : ∀ hdl, hdl ∈ ((websocketServer cfg generate).server.run trace).connections ↔
      .open hdl ∈ trace ∧ .close hdl ∉ trace := fun hdl => by
    simpa using dispatched.mem_connections_run hdl
  have presented : ∀ hdl ∈ ((websocketServer cfg generate).server.run trace).connections,
      ∃ token, .validate hdl token ∈ trace ∧ token ≠ [] ∧
        token = (websocketServer cfg generate).server.configuredToken := fun hdl member => by
    obtain ⟨token, validated, accepted⟩ :=
      dispatched.accepted_of_open ((registry hdl).mp member).1
    exact ⟨token, validated, (WebsocketServer.onValidate_eq_true_iff _ token).mp accepted⟩
  refine ⟨registry, presented, fun hdl token validated rejected member => ?_,
    fun hdl closed member => ((registry hdl).mp member).2 closed⟩
  obtain ⟨other, validatedOther, accepted⟩ := presented hdl member
  rw [dispatched.token_unique validated validatedOther] at rejected
  exact rejected.elim accepted.1 (not_not_intro accepted.2)

theorem registryInvariant_wrong_then_right :
    let cfg : Configuration :=
      { websocketAccessToken := StdString.ofString "token", websocketCertificateFile := [],
        websocketCertificatePassword := [], websocketCipherList := [], websocketListenPort := 0 }
    let server := (websocketServer cfg fun _ => []).server
    let trace := [.validate 1 (StdString.ofString "token"),
      .validate 2 (StdString.ofString "wrong"), .open 1, .close 1,
      .validate 3 (StdString.ofString "token"), .open 3]
    Dispatched server trace ∧ RegistryInvariant server trace :=
  have dispatched :=
    @Dispatched.open _ _ 3 (StdString.ofString "token")
      (Dispatched.validate
        (Dispatched.close
          (@Dispatched.open _ _ 1 (StdString.ofString "token")
            (Dispatched.validate (Dispatched.validate .nil (by simp)) (by simp))
            (by decide) (by decide) (by decide))
          (by decide) (by decide))
        (by simp))
      (by decide) (by decide) (by decide)
  ⟨dispatched, registryInvariant_websocketServer _ _ dispatched⟩

/-- What the constructor does with the access token: it leaves a non-empty token, stored in
the configuration; the stored one if there was one, with no write, or else the generated
one, written once; a second construction on the result keeps it and writes nothing; and a
handshake is accepted exactly when its header is that token. -/
structure TokenProvisioned (cfg : Configuration) (built : Constructed)
    (generated : StdString) : Prop where
  nonempty : built.server.configuredToken ≠ []
  stored : built.cfg.websocketAccessToken = built.server.configuredToken
  kept :
    cfg.websocketAccessToken ≠ [] →
      built.server.configuredToken = cfg.websocketAccessToken ∧ built.cfg = cfg ∧
        built.writes = []
  written :
    cfg.websocketAccessToken = [] →
      built.server.configuredToken = generated ∧
        built.cfg = cfg.setWebsocketAccessToken generated ∧ built.writes = [generated]
  idempotent :
    ∀ generateAgain : Nat → StdString,
      (websocketServer built.cfg generateAgain).server.configuredToken =
          built.server.configuredToken ∧
        (websocketServer built.cfg generateAgain).cfg = built.cfg ∧
        (websocketServer built.cfg generateAgain).writes = []
  admission :
    ∀ token, built.server.onValidate token = true ↔ token = built.server.configuredToken

/-- For every configuration, when the generator returns a token of the requested length. -/
theorem websocketServer_token (cfg : Configuration) (generate : Nat → StdString)
    (generated : (generate defaultTokenSize).length = defaultTokenSize) :
    TokenProvisioned cfg (websocketServer cfg generate) (generate defaultTokenSize) := by
  by_cases missing : cfg.websocketAccessToken = []
  · have nonempty : generate defaultTokenSize ≠ [] := fun empty => by
      rw [empty, List.length_nil, defaultTokenSize] at generated
      omega
    rw [websocketServer_of_nil missing]
    refine ⟨nonempty, rfl, fun stored => (stored missing).elim, fun _ => ⟨rfl, rfl, rfl⟩,
      fun generateAgain => ?_, fun token => ?_⟩
    · rw [@websocketServer_of_ne_nil (cfg.setWebsocketAccessToken _) nonempty]
      exact ⟨rfl, rfl, rfl⟩
    · rw [WebsocketServer.onValidate_eq_true_iff]
      exact ⟨And.right, fun same => ⟨same ▸ nonempty, same⟩⟩
  · rw [websocketServer_of_ne_nil missing]
    refine ⟨missing, rfl, fun _ => ⟨rfl, rfl, rfl⟩, fun stored => (missing stored).elim,
      fun generateAgain => ?_, fun token => ?_⟩
    · rw [websocketServer_of_ne_nil missing]
      exact ⟨rfl, rfl, rfl⟩
    · rw [WebsocketServer.onValidate_eq_true_iff]
      exact ⟨And.right, fun same => ⟨same ▸ missing, same⟩⟩

theorem websocketServer_token_fresh :
    let cfg : Configuration :=
      { websocketAccessToken := [], websocketCertificateFile := [],
        websocketCertificatePassword := [], websocketCipherList := [], websocketListenPort := 0 }
    let generate : Nat → StdString := fun size => List.replicate size 0x41
    (generate defaultTokenSize).length = defaultTokenSize ∧
      TokenProvisioned cfg (websocketServer cfg generate) (generate defaultTokenSize) :=
  ⟨List.length_replicate _ _, websocketServer_token _ _ (List.length_replicate _ _)⟩

end Ws

end PicoTorrent
