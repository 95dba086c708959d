import Mathlib.Data.List.Infix
import PicoTorrent.Client.Ws.WebsocketServer

namespace PicoTorrent

namespace Ws

/-! The TLS context `on_tls_init` builds for each connection, and the certificate file it
creates when the configured one is missing.  What OpenSSL makes of the file and of the cipher
list, and whether `std::ofstream` can create the file, are inputs: the code checks neither
the stream nor the result of `SSL_CTX_set_cipher_list`. -/

/-- The files the process sees, by path. -/
abbrev Filesystem := StdString → Option (List UInt8)

def Filesystem.write (fs : Filesystem) (path : StdString) (bytes : List UInt8) : Filesystem :=
  fun other => if other = path then some bytes else fs other

/-- `pal::file_exists`. -/
def Filesystem.fileExists (fs : Filesystem) (path : StdString) : Bool :=
  (fs path).isSome

/-- What OpenSSL makes of what `on_tls_init` hands it. -/
structure OpenSsl where
  /-- `use_certificate_chain_file` finds a PEM certificate chain in these bytes. -/
  loadsChain : List UInt8 → Bool
  /-- `use_private_key_file` finds in these bytes, with this password, a PEM private key
  that matches the loaded certificate. -/
  loadsKey : List UInt8 → StdString → Bool
  /-- `SSL_CTX_set_cipher_list` selects at least one cipher from this list. -/
  acceptsCiphers : StdString → Bool

/-- The `ssl::context` options `on_tls_init` sets. -/
inductive SslOption where
  | defaultWorkarounds
  | noSslv2
  | noSslv3
  | noTlsv1
  | singleDhUse
  deriving DecidableEq

/-- What `on_tls_init` throws: the `boost::system::system_error` of the `ssl::context` call
that could not load the certificate file. -/
inductive TlsError where
  | chainNotLoaded
  | keyNotLoaded
  deriving DecidableEq

/-- What the built `ssl::context` holds; `dh` is `dh_params::get()`. -/
structure TlsContext (Dh : Type) where
  options : List SslOption
  /-- The answer of the password callback, `get_certificate_password`. -/
  password : StdString
  certificateChainFile : StdString
  privateKeyFile : StdString
  tmpDh : Dh
  /-- The configured cipher list, or none when OpenSSL selected no cipher from it and kept
  its default list: the code ignores what `SSL_CTX_set_cipher_list` returns. -/
  cipherList : Option StdString

/-- Lines 104 to 110 of `on_tls_init`: when the certificate file is missing, the generated
certificate is written to it, if `std::ofstream` can create it; nothing reports when it
cannot. -/
def provision (fs : Filesystem) (certificateFile : StdString) (canCreate : Bool)
    (generated : List UInt8) : Filesystem :=
  if fs.fileExists certificateFile then fs
  else if canCreate then fs.write certificateFile generated
  else fs

/-- Lines 93 to 120 of `on_tls_init` around the file: the context built once the certificate
file holds `certificate` (none: it does not exist). -/
def loadContext {Dh : Type} (ssl : OpenSsl) (cfg : Configuration) (dh : Dh) :
    Option (List UInt8) → Except TlsError (TlsContext Dh)
  | none => .error .chainNotLoaded
  | some bytes =>
      if !ssl.loadsChain bytes then .error .chainNotLoaded
      else if !ssl.loadsKey bytes cfg.websocketCertificatePassword then .error .keyNotLoaded
      else .ok
        { options := [.defaultWorkarounds, .noSslv2, .noSslv3, .noTlsv1, .singleDhUse]
          password := cfg.websocketCertificatePassword
          certificateChainFile := cfg.websocketCertificateFile
          privateKeyFile := cfg.websocketCertificateFile
          tmpDh := dh
          cipherList :=
            if ssl.acceptsCiphers cfg.websocketCipherList then some cfg.websocketCipherList
            else none }

/-- `websocket_server::on_tls_init`: `generated` is what `certificate_manager::generate`
returns, and `canCreate` whether `std::ofstream` can open the certificate file. -/
def onTlsInit {Dh : Type} (ssl : OpenSsl) (cfg : Configuration) (fs : Filesystem)
    (canCreate : Bool) (generated : List UInt8) (dh : Dh) :
    Except TlsError (TlsContext Dh) × Filesystem :=
  let fs := provision fs cfg.websocketCertificateFile canCreate generated
  (loadContext ssl cfg dh (fs cfg.websocketCertificateFile), fs)

/-- `on_tls_init` for one connection after another, each with whether `std::ofstream` can
create the file and the certificate `certificate_manager::generate` gives: the contexts or
exceptions in order, and the file system afterwards. -/
def tlsInits {Dh : Type} (ssl : OpenSsl) (cfg : Configuration) (dh : Dh) (fs : Filesystem) :
    List (Bool × List UInt8) → List (Except TlsError (TlsContext Dh)) × Filesystem
  | [] => ([], fs)
  | (canCreate, generated) :: rest =>
      let (context, fs) := onTlsInit ssl cfg fs canCreate generated dh
      let (contexts, fs) := tlsInits ssl cfg dh fs rest
      (context :: contexts, fs)

/-- What the certificate file holds after these handshakes: what it held, or else the
certificate of the first handshake whose stream could create it. -/
def certificateAfter (fs : Filesystem) (certificateFile : StdString)
    (handshakes : List (Bool × List UInt8)) : Option (List UInt8) :=
  (fs certificateFile).or ((handshakes.find? (·.1)).map (·.2))

section Provision

variable (fs : Filesystem) (certificateFile : StdString) (canCreate : Bool)
  (generated : List UInt8)

theorem provision_other {path : StdString} (other : path ≠ certificateFile) :
    provision fs certificateFile canCreate generated path = fs path := by
  unfold provision
  split_ifs <;> simp [Filesystem.write, other]

/-- One handshake is the first step of the run's certificate. -/
theorem certificateAfter_cons (rest : List (Bool × List UInt8)) :
    certificateAfter fs certificateFile ((canCreate, generated) :: rest) =
      certificateAfter (provision fs certificateFile canCreate generated) certificateFile
        rest := by
  cases stored : fs certificateFile with
  | some bytes => simp [certificateAfter, provision, Filesystem.fileExists, stored]
  | none =>
      cases canCreate <;>
        simp [certificateAfter, provision, Filesystem.fileExists, Filesystem.write, stored]

theorem provision_eq_certificateAfter :
    provision fs certificateFile canCreate generated certificateFile =
      certificateAfter fs certificateFile [(canCreate, generated)] := by
  rw [certificateAfter_cons]
  simp [certificateAfter]

end Provision

theorem tail_inits_cons {α : Type} (first : α) (rest : List α) :
    (first :: rest).inits.tail = [first] :: rest.inits.tail.map (first :: ·) := by
  cases rest <;> simp [List.inits_cons]

/-- Certificate provisioning over every run of handshakes, whatever OpenSSL accepts and
whether each stream can create the file: the certificate file is written at most once, by
the first handshake that finds it missing and can create it, and no other file changes; and
each handshake's context, or its exception, is the one built from the file as the handshakes
up to it left it, so that every handshake before the file exists throws. -/
theorem tlsInits_certificate {Dh : Type} (ssl : OpenSsl) (cfg : Configuration) (dh : Dh)
    (fs : Filesystem) (handshakes : List (Bool × List UInt8)) :
    let run := tlsInits ssl cfg dh fs handshakes
    run.2 cfg.websocketCertificateFile =
        certificateAfter fs cfg.websocketCertificateFile handshakes ∧
      (∀ path ≠ cfg.websocketCertificateFile, run.2 path = fs path) ∧
      run.1 = handshakes.inits.tail.map fun done =>
        loadContext ssl cfg dh (certificateAfter fs cfg.websocketCertificateFile done) := by
  induction handshakes generalizing fs with
  | nil => simp [tlsInits, certificateAfter]
  | cons handshake rest induction =>
      obtain ⟨canCreate, generated⟩ := handshake
      obtain ⟨certificate, others, contexts⟩ :=
        induction (provision fs cfg.websocketCertificateFile canCreate generated)
      refine ⟨by rw [certificateAfter_cons]; exact certificate,
        fun path other => (others path other).trans (provision_other _ _ _ _ other), ?_⟩
      simp only [tlsInits, onTlsInit, contexts, tail_inits_cons, List.map_cons, List.map_map,
        provision_eq_certificateAfter]
      simp only [Function.comp_def, certificateAfter_cons]

end Ws

end PicoTorrent
