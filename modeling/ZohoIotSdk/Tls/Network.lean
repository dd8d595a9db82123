import ZohoIotSdk.Client.State
import ZohoIotSdk.Steps.Run

/-!
# The TLS connection

`init_tls`, `NetworkConnectTLS` and `NetworkDisconnect` of `tls_network.c`. The functions work on
the contexts of a `Network` only through calls of mbedTLS, so their model is the list of calls
they make, in order, with the answers that the calls return as an argument. What is written to
the log is left out.
-/

namespace ZohoIotSdk

open Steps (Step)

/-! ## Calls -/

/-- The mbedTLS contexts of a `Network`. -/
inductive TlsContext where
  | ssl
  | serverFd
  | conf
  | cacert
  | clicert
  | pkey
  | entropy
  | ctrDrbg
deriving DecidableEq, Repr

/-- `MBEDTLS_SSL_VERIFY_NONE`, `MBEDTLS_SSL_VERIFY_OPTIONAL` and `MBEDTLS_SSL_VERIFY_REQUIRED`. -/
inductive AuthMode where
  | none
  | optional
  | required
deriving DecidableEq, Repr

/-- A call of mbedTLS, with the arguments that say what it is for. The last two are the assignment
of `my_socket` and the `close` of a connection without TLS. -/
inductive TlsCall where
  | init (context : TlsContext)
  | free (context : TlsContext)
  | ctrDrbgSeed (custom : CString)
  | parseCert (context : TlsContext) (mode : CertsParseMode) (cert : CString)
  | parseKey (context : TlsContext) (mode : CertsParseMode) (key password : CString)
  | confOwnCert (cert key : TlsContext)
  | setHostname (hostname : CString)
  | netConnect (host port : CString)
  | configDefaults
  | confMaxVersion (major minor : ℕ)
  | confMinVersion (major minor : ℕ)
  | confAuthmode (authmode : AuthMode)
  | confCaChain (chain : TlsContext)
  | confRng (rng : TlsContext)
  | confDbg
  | setBio (fd : TlsContext)
  | setup
  | handshake
  | getVerifyResult
  | closeNotify
  | useSocket
  | close
deriving DecidableEq

/-- The arguments of `NetworkConnectTLS`. No string is null, and `port_char` has room for the
port: the SDK uses 8883 and 1883. -/
structure TlsArgs where
  addr : CString
  port : ℤ
  mode : CertsParseMode
  caCrt : CString
  clientCert : CString
  clientKey : CString
  certPassword : CString
  port_fits : (intText port).length < 5

/-- What the calls return. Of `mbedtls_ssl_handshake` there may be any number of calls. -/
structure TlsAnswer where
  ctrDrbgSeed : ℤ := 0
  parseCacert : ℤ := 0
  parseClicert : ℤ := 0
  parseKey : ℤ := 0
  confOwnCert : ℤ := 0
  setHostname : ℤ := 0
  netConnect : ℤ := 0
  configDefaults : ℤ := 0
  setup : ℤ := 0
  handshake : List ℤ := [0]
  getVerifyResult : ℕ := 0

/-! ## `init_tls` -/

/-- The contexts that `init_tls` initialises; `certs` says whether client certificates are in
use. -/
def initContexts (certs : Bool) : List TlsContext :=
  [.serverFd, .ssl, .conf, .cacert, .ctrDrbg, .entropy] ++
    if certs then [.clicert, .pkey] else []

/-- The calls of `init_tls` that can fail. -/
def parseSteps (certs : Bool) (args : TlsArgs) (ans : TlsAnswer) : List (Step TlsCall) :=
  [⟨.ctrDrbgSeed "zoho_iot_c_client_tls".toList, ans.ctrDrbgSeed⟩,
    ⟨.parseCert .cacert args.mode args.caCrt, ans.parseCacert⟩] ++
    if certs then
      [⟨.parseCert .clicert args.mode args.clientCert, ans.parseClicert⟩,
        ⟨.parseKey .pkey args.mode args.clientKey args.certPassword, ans.parseKey⟩]
    else []

/-- `init_tls`. -/
def initTls (certs : Bool) (args : TlsArgs) (ans : TlsAnswer) : List TlsCall × ℤ :=
  let (calls, rc) := Steps.run
    (((initContexts certs).map TlsCall.init).map Step.void ++ parseSteps certs args ans)
  (calls, if rc ≠ 0 then -1 else 0)

/-! ## `NetworkConnectTLS` -/

/-- `MBEDTLS_ERR_SSL_WANT_READ` -/
def sslWantRead : ℤ := -0x6900

/-- `MBEDTLS_ERR_SSL_WANT_WRITE` -/
def sslWantWrite : ℤ := -0x6880

/-- The calls of `NetworkConnectTLS` before the handshake. -/
def connectSteps (certs : Bool) (args : TlsArgs) (ans : TlsAnswer) : List (Step TlsCall) :=
  (if certs then
    [⟨.confOwnCert .clicert .pkey, ans.confOwnCert⟩, ⟨.setHostname args.addr, ans.setHostname⟩]
  else []) ++
  [⟨.netConnect args.addr (intText args.port), ans.netConnect⟩,
    ⟨.configDefaults, ans.configDefaults⟩,
    .void (.confMaxVersion 3 3),
    .void (.confMinVersion 3 3),
    .void (.confAuthmode .required),
    .void (.confCaChain .cacert),
    .void (.confRng .ctrDrbg),
    .void .confDbg,
    .void (.setBio .serverFd),
    ⟨.setup, ans.setup⟩]

/-- The loop around `mbedtls_ssl_handshake`: the calls and the result that ends it, if there is
one. -/
def handshakeLoop : List ℤ → List TlsCall × Option ℤ
  | [] => ([], none)
  | rc :: rest =>
    if rc ≠ 0 ∧ (rc = sslWantRead ∨ rc = sslWantWrite) then
      (.handshake :: (handshakeLoop rest).1, (handshakeLoop rest).2)
    else ([.handshake], some rc)

/-- The contexts that are freed at the label `cleanup`. -/
def cleanupContexts : List TlsContext := [.serverFd, .cacert, .ssl, .conf, .ctrDrbg, .entropy]

def cleanup : List TlsCall := cleanupContexts.map TlsCall.free

/-- `NetworkConnectTLS`: the calls, and what is returned unless the handshake goes on for ever. -/
def networkConnectTLS (b : Build) (tlsClientCerts : Bool) (args : TlsArgs) (ans : TlsAnswer) :
    List TlsCall × Option ℤ :=
  let certs := b.useClientCerts && tlsClientCerts
  let (inits, rc) := initTls certs args ans
  if rc ≠ 0 then (inits, some (-1))
  else
    let (connects, rc) := Steps.run (connectSteps certs args ans)
    if rc ≠ 0 then (inits ++ connects ++ cleanup, some (-1))
    else
      let (handshakes, rc) := handshakeLoop ans.handshake
      match rc with
      | none => (inits ++ connects ++ handshakes, none)
      | some rc =>
        if rc ≠ 0 then (inits ++ connects ++ handshakes ++ cleanup, some (-1))
        else if ans.getVerifyResult ≠ 0 then
          (inits ++ connects ++ handshakes ++ [.getVerifyResult] ++ cleanup, some (-1))
        else (inits ++ connects ++ handshakes ++ [.getVerifyResult, .useSocket], some 0)

/-! ## `NetworkDisconnect` -/

/-- The contexts that `NetworkDisconnect` frees. -/
def disconnectContexts (certs : Bool) : List TlsContext :=
  [.serverFd, .cacert] ++ (if certs then [.clicert, .pkey] else []) ++
    [.ssl, .conf, .ctrDrbg, .entropy]

/-- `NetworkDisconnect`. -/
def networkDisconnect (b : Build) (tlsMode tlsClientCerts : Bool) : List TlsCall :=
  if tlsMode then
    .closeNotify :: (disconnectContexts (b.useClientCerts && tlsClientCerts)).map TlsCall.free
  else [.close]

end ZohoIotSdk
