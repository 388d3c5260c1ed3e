import EventGateway.Proofs.Drafts
import EventGateway.Proofs.Lookup
import EventGateway.Protocol.Settings

/-!
# Security settings

Triggers and services name user and password, the trust store, certificates, and two flags about the
verification of certificates.  Where these settings stand is a matter of the protocol
(`TlsLayout`), and so is the key of the user.  Everything else in the settings of a trigger or a
service leaves them alone, so the settings of an endpoint show, under the keys that are about
security, a list of entries that does not depend on anything else (`Shows`).

## Main definitions

* `Shows` — what settings show under the keys that are about security.
* `SecuritySettings` — what can be said about such settings, key by key.

## Main statements

* `shows_triggerSettings`, `shows_serviceSettings` — the security settings of an endpoint.
* `Shows.securitySettings` — what follows from them.
-/

namespace EventGateway

open Flogo (Settings)

/-! ## Keys -/

/-- The keys of TLS settings in a trigger or a service. -/
def tlsKeys : List String :=
  ["trustStore", "ca", "sslConfig", "enableTLS", "certFile", "keyFile"]

/-- The keys of credentials. -/
def credentialKeys : List String :=
  ["user", "username", "password"]

/-- All keys that are about security, those in the block of certificates included. -/
def securityKeys : List String :=
  tlsKeys ++ credentialKeys ++ ["caFile", "skipVerify", "useSystemCert"]

/-- The references to the environment that stand for credentials, certificates and trust stores. -/
def secrets : List (String × String) :=
  [("user", Environment.user), ("username", Environment.user), ("password", Environment.password),
    ("trustStore", Environment.trustStore), ("ca", Environment.trustStore),
    ("caFile", Environment.trustStore), ("certFile", Environment.certFile),
    ("keyFile", Environment.keyFile)]

/-- The block of certificates, if there is one. -/
def sslConfig? (settings : Settings) : Option Settings :=
  (settings.find? "sslConfig").bind Value.members?

/-- Settings, and the block of certificates among them. -/
def blocks (settings : Settings) : List Settings :=
  settings :: (sslConfig? settings).toList

/-- The values under a key, in the settings or in the block of certificates. -/
def valuesUnder (settings : Settings) (key : String) : List Value :=
  (blocks settings).filterMap (·.find? key)

/-- A value stands under a key at the top, or in the block of certificates. -/
theorem mem_valuesUnder_iff {settings : Settings} {key : String} {v : Value} :
    v ∈ valuesUnder settings key ↔
      settings.find? key = some v ∨ ∃ block ∈ sslConfig? settings, block.find? key = some v := by
  simp [valuesUnder, blocks, List.mem_filterMap]

/-! ## Layouts -/

/-- The flags about verification, later ones first. -/
def TlsPolicy.flags (policy : TlsPolicy) : List (String × Value) :=
  (policy.useSystemCert.map fun flag => ("useSystemCert", .bool flag)).toList ++
    [("skipVerify", .bool policy.skipVerify)]

/-- Where the TLS settings of an endpoint stand. -/
inductive TlsLayout where
  /-- There are none. -/
  | absent
  /-- The trust store, under a key of its own. -/
  | trustStore
  /-- The trust store, as the authority that certificates are from. -/
  | authority
  /-- The certificate of a server that others call. -/
  | listener
  /-- A block of certificates with the flags in it. -/
  | nested
  /-- A block of certificates with the flags beside it. -/
  | flat
deriving DecidableEq, Repr

namespace TlsLayout

/-- The keys of TLS settings. -/
def keys : TlsLayout → List String
  | absent => []
  | trustStore => ["trustStore"]
  | authority => ["ca"]
  | listener => ["enableTLS", "certFile", "keyFile"]
  | nested | flat => ["sslConfig"]

/-- Whether the flags about verification are written. -/
def hasFlags : TlsLayout → Bool
  | nested | flat => true
  | _ => false

/-- The block of certificates. -/
def block? (policy : TlsPolicy) : TlsLayout → Option Settings
  | nested => some (policy.addFlags policy.certificates)
  | flat => some policy.certificates
  | _ => none

/-- The TLS settings, later ones first. -/
def entries (policy : TlsPolicy) : TlsLayout → List (String × Value)
  | absent => []
  | trustStore => [("trustStore", .text Environment.trustStore)]
  | authority => [("ca", .text Environment.trustStore)]
  | listener => [("keyFile", .text Environment.keyFile), ("certFile", .text Environment.certFile),
      ("enableTLS", .bool true)]
  | nested => [("sslConfig", .object (policy.addFlags policy.certificates))]
  | flat => policy.flags ++ [("sslConfig", .object policy.certificates)]

end TlsLayout

/-- The layout of the trigger of a server that speaks the secure variant of a protocol. -/
def Protocol.triggerLayout : Protocol → TlsLayout
  | kafka => .trustStore
  | eftl => .authority
  | mqtt => .nested
  | ws => .absent
  | http => .listener

/-- The layout of the services of a server that speaks the secure variant of a protocol. -/
def Protocol.serviceLayout : Protocol → TlsLayout
  | kafka => .trustStore
  | eftl => .authority
  | mqtt | http => .flat
  | ws => .absent

/-- The key of the user, for the protocols that have one. -/
def Protocol.userKey? : Protocol → Option String
  | kafka | eftl => some "user"
  | mqtt => some "username"
  | ws | http => none

/-- The keys of user and password. -/
def Protocol.userKeys (p : Protocol) : List String :=
  match p.userKey? with
  | some key => [key, "password"]
  | none => []

/-- User and password, later ones first. -/
def Protocol.credentials (p : Protocol) : List (String × Value) :=
  match p.userKey? with
  | some key => [("password", .text Environment.password), (key, .text Environment.user)]
  | none => []

/-! ## What settings show -/

/-- Under the keys that are about security, settings show some entries and nothing else. -/
def Shows (settings : Settings) (entries : List (String × Value)) : Prop :=
  ∀ key ∈ securityKeys, settings.find? key = entries.lookup key

namespace Shows

variable {settings : Settings} {entries : List (String × Value)}

/-- No settings show nothing. -/
theorem empty : Shows ∅ [] :=
  fun _ _ => rfl

/-- An insertion shows first. -/
theorem insert (h : Shows settings entries) (key : String) (v : Value) :
    Shows (settings.insert key v) ((key, v) :: entries) := by
  intro k mem
  rw [Dict.find?_insert, Dict.lookup_entry_cons, h k mem]

/-- **Other settings change nothing.** -/
theorem insert_other (h : Shows settings entries) (key : String) (other : key ∉ securityKeys)
    (v : Value) : Shows (settings.insert key v) entries := by
  intro k mem
  have ne : k ≠ key := fun eq => other (eq ▸ mem)
  rw [Dict.find?_insert, if_neg ne, h k mem]

/-- An insertion under a key that has nothing to do with security does not show. -/
theorem insert?_other (h : Shows settings entries) (key : String) (other : key ∉ securityKeys)
    (v : Option Value) : Shows (settings.insert? key v) entries := by
  cases v with
  | none => exact h
  | some v => exact h.insert_other key other v

/-- A key is there if one of the entries has it. -/
theorem contains_iff (h : Shows settings entries) {key : String} (mem : key ∈ securityKeys) :
    settings.contains key = true ↔ key ∈ entries.map Prod.fst := by
  rw [Dict.contains, h key mem, List.lookup_isSome_iff, List.mem_map]
  refine exists_congr fun entry => and_congr_right fun _ => ?_
  rw [beq_iff_eq, eq_comm]

end Shows

/-! ### Blocks of certificates -/

namespace TlsPolicy

/-- The entries of a block of certificates, later ones first. -/
def files (policy : TlsPolicy) : List (String × Value) :=
  (if policy.includeTrustStore then [("caFile", .text Environment.trustStore)] else []) ++
    [("keyFile", .text Environment.keyFile), ("certFile", .text Environment.certFile)]

/-- The block of a policy shows its files. -/
theorem shows_certificates (policy : TlsPolicy) : Shows policy.certificates policy.files := by
  have base := (Shows.empty.insert "certFile" (.text Environment.certFile)).insert "keyFile"
    (.text Environment.keyFile)
  rw [certificates, files]
  split
  · exact base.insert "caFile" (.text Environment.trustStore)
  · exact base

/-- Flags show in front of what was there. -/
theorem shows_addFlags (policy : TlsPolicy) {settings : Settings}
    {entries : List (String × Value)} (h : Shows settings entries) :
    Shows (policy.addFlags settings) (policy.flags ++ entries) := by
  have base := h.insert "skipVerify" (.bool policy.skipVerify)
  rw [addFlags, flags]
  cases policy.useSystemCert with
  | none => exact base
  | some flag => exact base.insert "useSystemCert" (.bool flag)

/-- The certificates of the system are of interest only where certificates are verified. -/
theorem skipVerify_resolve (skipVerify useSystemCert : Option Bool) {flag : Bool}
    (known : (resolve skipVerify useSystemCert).useSystemCert = some flag) :
    (resolve skipVerify useSystemCert).skipVerify = false := by
  cases skip : (resolve skipVerify useSystemCert).skipVerify with
  | false => rfl
  | true =>
    have skipped : skipVerify.getD true = true := skip
    rw [resolve, if_pos skipped] at known
    cases known

end TlsPolicy

/-! ## The settings of endpoints -/

/-- What a trigger or a service shows: TLS settings if its server speaks the secure variant, and
credentials if the server asks for them. -/
def Protocol.shown (p : Protocol) (layout : TlsLayout) (policy : TlsPolicy) (e : Endpoint) :
    List (String × Value) :=
  (if e.secure then layout else .absent).entries policy ++
    if e.userPassword then p.credentials else []

/-- The nested layout shows in front of what was there. -/
theorem Shows.addNested (policy : TlsPolicy) {settings : Settings}
    {entries : List (String × Value)} (h : Shows settings entries) :
    Shows (policy.addNested settings) (TlsLayout.nested.entries policy ++ entries) :=
  h.insert "sslConfig" _

/-- The flat layout shows in front of what was there. -/
theorem Shows.addFlat (policy : TlsPolicy) {settings : Settings}
    {entries : List (String × Value)} (h : Shows settings entries) :
    Shows (policy.addFlat settings) (TlsLayout.flat.entries policy ++ entries) := by
  have base := h.insert "sslConfig" (.object policy.certificates)
  rw [TlsLayout.entries, List.append_assoc]
  exact policy.shows_addFlags base

/-- Settings that are not about security stay as they are. -/
theorem TlsPolicy.find?_addFlat (policy : TlsPolicy) (settings : Settings) {key : String}
    (other : key ∉ securityKeys) : (policy.addFlat settings).find? key = settings.find? key := by
  have ne : ∀ added ∈ securityKeys, key ≠ added := fun added mem eq => other (eq ▸ mem)
  rw [addFlat, addFlags, Dict.find?_insert?, if_neg (ne "useSystemCert" (by decide)),
    Dict.find?_insert, if_neg (ne "skipVerify" (by decide)), Dict.find?_insert,
    if_neg (ne "sslConfig" (by decide))]

/-- TLS settings that are added for the secure variant come first. -/
theorem Shows.secured {e : Endpoint} {settings settings' : Settings} {layout : TlsLayout}
    {policy : TlsPolicy} {entries : List (String × Value)} (h : Shows settings entries)
    (tls : Shows settings entries → Shows settings' (layout.entries policy ++ entries)) :
    Shows (if e.secure then settings' else settings)
      ((if e.secure then layout else .absent).entries policy ++ entries) := by
  cases e.secure with
  | true => exact tls h
  | false => exact h

/-- Credentials that are added on demand. -/
theorem Shows.credentials {e : Endpoint} {settings : Settings} (h : Shows settings [])
    {p : Protocol} {key : String} (user : p.userKey? = some key) :
    Shows (if e.userPassword then
        settings.insert key (.text Environment.user)
          |>.insert "password" (.text Environment.password)
      else settings) (if e.userPassword then p.credentials else []) := by
  have entries : p.credentials =
      [("password", .text Environment.password), (key, .text Environment.user)] := by
    rw [Protocol.credentials, user]
  cases e.userPassword with
  | true => exact entries ▸ (h.insert key _).insert "password" _
  | false => exact h

/-- Protocols without credentials show none. -/
theorem Shows.noCredentials {e : Endpoint} {settings : Settings} (h : Shows settings [])
    {p : Protocol} (user : p.userKey? = none) :
    Shows settings (if e.userPassword then p.credentials else []) := by
  have entries : p.credentials = [] := by
    rw [Protocol.credentials, user]
  cases e.userPassword with
  | true => exact entries ▸ h
  | false => exact h

/-- WebSocket has neither TLS settings nor credentials. -/
theorem Protocol.shown_ws (policy : TlsPolicy) (e : Endpoint) : ws.shown .absent policy e = [] := by
  rw [shown, ite_self]
  exact ite_self _

/-- What a Kafka connection shows of security. -/
theorem Kafka.shows_connection (e : Endpoint) (policy : TlsPolicy) :
    Shows (connection e) (Protocol.kafka.shown .trustStore policy e) := by
  have base := Shows.empty.insert_other "brokerUrls" (by decide) (.text e.url)
  exact (base.credentials rfl).secured fun h => h.insert "trustStore" _

/-- What an eFTL connection shows of security. -/
theorem Eftl.shows_addConnection (e : Endpoint) (policy : TlsPolicy) {settings : Settings}
    (h : Shows settings []) :
    Shows (addConnection e settings) (Protocol.eftl.shown .authority policy e) := by
  have base := h.insert_other "url" (by decide) (.text e.url)
  exact (base.credentials rfl).secured fun h => h.insert "ca" _

/-- The policy of a trigger, from the extensions of its server. -/
def Endpoint.triggerPolicy (e : Endpoint) : TlsPolicy :=
  .resolve e.extensions.skipVerify e.extensions.useSystemCert

/-- The policy of a service, from the binding information of its operation. -/
def Endpoint.servicePolicy (e : Endpoint) : Protocol → TlsPolicy
  | .mqtt => .resolve (e.bindings.mqtt.getD {}).skipVerify (e.bindings.mqtt.getD {}).useSystemCert
  | .http => .resolve (e.bindings.http.getD {}).skipVerify (e.bindings.http.getD {}).useSystemCert
  | _ => .standard

/-- **The security settings of a trigger.** -/
theorem shows_triggerSettings (p : Protocol) (e : Endpoint) :
    Shows (p.triggerSettings e) (p.shown p.triggerLayout e.triggerPolicy e) := by
  cases p with
  | kafka => exact Kafka.shows_connection e _
  | eftl => exact Eftl.shows_addConnection e _ (Shows.empty.insert_other _ (by decide) _)
  | mqtt =>
    refine Shows.secured ?_ fun h => h.addNested _
    -- Between credentials and TLS settings stands what the extensions say about the session.
    iterate 4 refine Shows.insert?_other ?_ _ (by decide) _
    refine Shows.credentials ?_ rfl
    iterate 2 refine Shows.insert_other ?_ _ (by decide) _
    exact Shows.empty
  | ws =>
    rw [Protocol.triggerLayout, Protocol.shown_ws]
    exact Shows.empty.insert_other _ (by decide) _
  | http =>
    have base := Shows.empty.insert_other "port" (by decide) (Http.port e)
    refine (base.noCredentials (p := .http) rfl).secured fun h => ?_
    exact ((h.insert "enableTLS" _).insert "certFile" _).insert "keyFile" _

/-- **The security settings of a service.** -/
theorem shows_serviceSettings (p : Protocol) (e : Endpoint) :
    Shows (p.serviceSettings e) (p.shown p.serviceLayout (e.servicePolicy p) e) := by
  cases p with
  | kafka => exact (Kafka.shows_connection e _).insert_other _ (by decide) _
  | eftl =>
    exact (Eftl.shows_addConnection e _ (Shows.empty.insert_other _ (by decide) _)).insert_other _
      (by decide) _
  | mqtt =>
    refine Shows.secured ?_ fun h => h.addFlat _
    iterate 3 refine Shows.insert?_other ?_ _ (by decide) _
    refine Shows.credentials ?_ rfl
    iterate 3 refine Shows.insert_other ?_ _ (by decide) _
    exact Shows.empty
  | ws =>
    rw [Protocol.serviceLayout, Protocol.shown_ws]
    exact Shows.empty
  | http =>
    refine Shows.secured (Shows.noCredentials ?_ rfl) fun h => h.addFlat _
    iterate 4 refine Shows.insert?_other ?_ _ (by decide) _
    exact Shows.empty.insert_other _ (by decide) _

/-! ## What can be said about security settings -/

/-- **Security settings, key by key**, with a layout, a policy, and the keys of the credentials. -/
structure SecuritySettings (settings : Settings) (layout : TlsLayout) (policy : TlsPolicy)
    (credentials : List String) : Prop where
  tls : ∀ key ∈ tlsKeys, settings.contains key = true ↔ key ∈ layout.keys
  skipVerify : ∀ v, v ∈ valuesUnder settings "skipVerify" ↔
    layout.hasFlags = true ∧ v = .bool policy.skipVerify
  useSystemCert : ∀ v, v ∈ valuesUnder settings "useSystemCert" ↔
    layout.hasFlags = true ∧ ∃ flag ∈ policy.useSystemCert, v = .bool flag
  /-- The certificates of the system are used only where certificates are verified. -/
  verified : ∀ block ∈ blocks settings, block.contains "useSystemCert" = true →
    block.find? "skipVerify" = some (.bool false)
  /-- The trust store is named only where the certificates of the system are refused. -/
  caFile : (∃ block ∈ sslConfig? settings, block.contains "caFile" = true) ↔
    .bool false ∈ valuesUnder settings "useSystemCert"
  credentials : ∀ key ∈ credentialKeys, settings.contains key = true ↔ key ∈ credentials
  /-- Nothing secret is taken from a document. -/
  secrets : ∀ secret ∈ secrets, ∀ v ∈ valuesUnder settings secret.1, v = .text secret.2

namespace TlsLayout

variable {layout : TlsLayout} {policy : TlsPolicy}

/-- The entries of the block of certificates. -/
def blockEntries (policy : TlsPolicy) : TlsLayout → List (String × Value)
  | nested => policy.flags ++ policy.files
  | flat => policy.files
  | _ => []

/-- What the block of a layout shows. -/
theorem shows_block {block : Settings} (h : layout.block? policy = some block) :
    Shows block (layout.blockEntries policy) := by
  cases layout with
  | nested =>
    obtain rfl := Option.some.inj h
    exact policy.shows_addFlags policy.shows_certificates
  | flat =>
    obtain rfl := Option.some.inj h
    exact policy.shows_certificates
  | _ => cases h

/-- The block of a layout stands under its own key. -/
theorem lookup_sslConfig (layout : TlsLayout) (policy : TlsPolicy) :
    (layout.entries policy).lookup "sslConfig" = (layout.block? policy).map .object := by
  obtain ⟨skipVerify, useSystemCert⟩ := policy
  cases layout <;> cases useSystemCert <;> rfl

/-- Without a block there is nothing in it. -/
theorem blockEntries_eq_nil (h : layout.block? policy = none) :
    layout.blockEntries policy = [] := by
  cases layout <;> first | rfl | cases h

/-- What stands in the block of certificates. -/
theorem exists_block_iff {key : String} (mem : key ∈ securityKeys) {v : Value} :
    (∃ block ∈ layout.block? policy, block.find? key = some v) ↔
      (layout.blockEntries policy).lookup key = some v := by
  cases found : layout.block? policy with
  | none => simp [blockEntries_eq_nil found]
  | some block => simp [shows_block found key mem]

/-- The keys of the block are those that its entries have. -/
theorem exists_block_contains_iff {key : String} (mem : key ∈ securityKeys) :
    (∃ block ∈ layout.block? policy, block.contains key = true) ↔
      key ∈ (layout.blockEntries policy).map Prod.fst := by
  cases found : layout.block? policy with
  | none => simp [blockEntries_eq_nil found]
  | some block =>
    rw [← (shows_block found).contains_iff mem]
    exact ⟨fun ⟨_, eq, there⟩ => Option.some.inj eq ▸ there, fun there => ⟨block, rfl, there⟩⟩

/-- The keys of TLS settings that are entered are those of the layout. -/
theorem mem_keys_entries_iff {key : String} (mem : key ∈ tlsKeys) :
    key ∈ (layout.entries policy).map Prod.fst ↔ key ∈ layout.keys := by
  have notFlag : key ≠ "skipVerify" ∧ key ≠ "useSystemCert" := by
    constructor <;> rintro rfl <;> revert mem <;> decide
  obtain ⟨skipVerify, useSystemCert⟩ := policy
  cases layout <;> cases useSystemCert <;>
    simp [entries, keys, TlsPolicy.flags, notFlag, or_comm, or_left_comm]

/-- No credentials are among TLS settings. -/
theorem notMem_keys_entries {key : String} (mem : key ∈ credentialKeys) :
    key ∉ (layout.entries policy).map Prod.fst := by
  obtain ⟨skipVerify, useSystemCert⟩ := policy
  simp only [credentialKeys, List.mem_cons, List.not_mem_nil, or_false] at mem
  rcases mem with rfl | rfl | rfl <;> cases layout <;> cases useSystemCert <;>
    simp [entries, TlsPolicy.flags]

/-- What is written under a key, in the settings or in the block of certificates. -/
def Writes (layout : TlsLayout) (policy : TlsPolicy) (key : String) (v : Value) : Prop :=
  (layout.entries policy).lookup key = some v ∨ (layout.blockEntries policy).lookup key = some v

/-- Whether certificates are verified is written wherever there are flags. -/
theorem writes_skipVerify_iff {v : Value} : layout.Writes policy "skipVerify" v ↔
    layout.hasFlags = true ∧ v = .bool policy.skipVerify := by
  obtain ⟨skipVerify, useSystemCert⟩ := policy
  rcases useSystemCert with _ | _ | _ <;> cases layout <;>
    simp [Writes, entries, blockEntries, hasFlags, TlsPolicy.flags, TlsPolicy.files,
      TlsPolicy.includeTrustStore, Dict.lookup_entry_cons, eq_comm]

/-- Whether certificates of the system are used is written where it is known. -/
theorem writes_useSystemCert_iff {v : Value} : layout.Writes policy "useSystemCert" v ↔
    layout.hasFlags = true ∧ ∃ flag ∈ policy.useSystemCert, v = .bool flag := by
  obtain ⟨skipVerify, useSystemCert⟩ := policy
  rcases useSystemCert with _ | _ | _ <;> cases layout <;>
    simp [Writes, entries, blockEntries, hasFlags, TlsPolicy.flags, TlsPolicy.files,
      TlsPolicy.includeTrustStore, Dict.lookup_entry_cons, eq_comm]

/-- The trust store is in the block if the certificates of the system are refused. -/
theorem caFile_mem_blockEntries_iff :
    "caFile" ∈ (layout.blockEntries policy).map Prod.fst ↔
      layout.hasFlags = true ∧ policy.useSystemCert = some false := by
  obtain ⟨skipVerify, useSystemCert⟩ := policy
  rcases useSystemCert with _ | _ | _ <;> cases layout <;>
    simp [blockEntries, hasFlags, TlsPolicy.flags, TlsPolicy.files, TlsPolicy.includeTrustStore]

/-- Where one flag stands beside the block of certificates, the other one does. -/
theorem skipVerify_of_entries (written : "useSystemCert" ∈ (layout.entries policy).map Prod.fst) :
    (∃ flag, flag ∈ policy.useSystemCert) ∧
      (layout.entries policy).lookup "skipVerify" = some (.bool policy.skipVerify) := by
  obtain ⟨skipVerify, useSystemCert⟩ := policy
  cases useSystemCert <;> cases layout <;>
    simp [entries, TlsPolicy.flags, Dict.lookup_entry_cons] at written ⊢

/-- Where one flag stands in the block of certificates, the other one does. -/
theorem skipVerify_of_blockEntries
    (written : "useSystemCert" ∈ (layout.blockEntries policy).map Prod.fst) :
    (∃ flag, flag ∈ policy.useSystemCert) ∧
      (layout.blockEntries policy).lookup "skipVerify" = some (.bool policy.skipVerify) := by
  obtain ⟨skipVerify, useSystemCert⟩ := policy
  rcases useSystemCert with _ | _ | _ <;> cases layout <;>
    simp [blockEntries, TlsPolicy.flags, TlsPolicy.files, TlsPolicy.includeTrustStore,
      Dict.lookup_entry_cons] at written ⊢

end TlsLayout

/-! ### Secrets -/

/-- If a key is that of a secret, the value is the reference that stands for it. -/
def KeepsSecret (entry : String × Value) : Prop :=
  ∀ secret ∈ secrets, entry.1 = secret.1 → entry.2 = .text secret.2

/-- A secret that refers to the environment is kept. -/
theorem keepsSecret_of_mem {key reference : String} (mem : (key, reference) ∈ secrets) :
    KeepsSecret (key, .text reference) := by
  have unique : ∀ a ∈ secrets, ∀ b ∈ secrets, a.1 = b.1 → a.2 = b.2 := by decide
  intro secret listed same
  exact congrArg Value.text (unique _ mem secret listed same)

/-- Other keys hold no secret. -/
theorem keepsSecret_of_notMem {key : String} (other : key ∉ secrets.map Prod.fst) (v : Value) :
    KeepsSecret (key, v) :=
  fun _ listed same => absurd (List.mem_map.2 ⟨_, listed, same.symm⟩) other

/-- Flags hold no secret. -/
theorem TlsPolicy.keepsSecret_flags (policy : TlsPolicy) :
    ∀ entry ∈ policy.flags, KeepsSecret entry := by
  intro entry mem
  rcases List.mem_append.1 mem with mem | mem
  · obtain ⟨flag, -, rfl⟩ := Option.map_eq_some_iff.1 (Option.mem_toList.1 mem)
    exact keepsSecret_of_notMem (by decide) _
  · obtain rfl := List.mem_singleton.1 mem
    exact keepsSecret_of_notMem (by decide) _

/-- Files refer to the environment. -/
theorem TlsPolicy.keepsSecret_files (policy : TlsPolicy) :
    ∀ entry ∈ policy.files, KeepsSecret entry := by
  intro entry mem
  rcases List.mem_append.1 mem with mem | mem
  · split at mem
    · obtain rfl := List.mem_singleton.1 mem
      exact keepsSecret_of_mem (by decide)
    · cases mem
  · rcases List.mem_pair.1 mem with rfl | rfl <;> exact keepsSecret_of_mem (by decide)

/-- No layout writes a secret out. -/
theorem TlsLayout.keepsSecret_entries (layout : TlsLayout) (policy : TlsPolicy) :
    ∀ entry ∈ layout.entries policy, KeepsSecret entry := by
  intro entry mem
  cases layout with
  | absent => cases mem
  | trustStore | authority =>
    obtain rfl := List.mem_singleton.1 mem
    exact keepsSecret_of_mem (by decide)
  | listener =>
    rcases List.mem_cons.1 mem with rfl | mem
    · exact keepsSecret_of_mem (by decide)
    · rcases List.mem_pair.1 mem with rfl | rfl
      · exact keepsSecret_of_mem (by decide)
      · exact keepsSecret_of_notMem (by decide) _
  | nested =>
    obtain rfl := List.mem_singleton.1 mem
    exact keepsSecret_of_notMem (by decide) _
  | flat =>
    rcases List.mem_append.1 mem with mem | mem
    · exact policy.keepsSecret_flags entry mem
    · obtain rfl := List.mem_singleton.1 mem
      exact keepsSecret_of_notMem (by decide) _

/-- No block writes a secret out. -/
theorem TlsLayout.keepsSecret_blockEntries (layout : TlsLayout) (policy : TlsPolicy) :
    ∀ entry ∈ layout.blockEntries policy, KeepsSecret entry := by
  intro entry mem
  cases layout with
  | nested =>
    rcases List.mem_append.1 mem with mem | mem
    · exact policy.keepsSecret_flags entry mem
    · exact policy.keepsSecret_files entry mem
  | flat => exact policy.keepsSecret_files entry mem
  | _ => cases mem

/-- Credentials refer to the environment. -/
theorem Protocol.keepsSecret_credentials (p : Protocol) :
    ∀ entry ∈ p.credentials, KeepsSecret entry := by
  intro entry mem
  cases p with
  | ws | http => cases mem
  | _ => rcases List.mem_pair.1 mem with rfl | rfl <;> exact keepsSecret_of_mem (by decide)

/-! ### Credentials -/

/-- The keys of credentials, if a server asks for them, are those of the protocol. -/
theorem Protocol.mem_keys_credentials_iff (p : Protocol) (asked : Bool) (key : String) :
    key ∈ (if asked then p.credentials else []).map Prod.fst ↔
      key ∈ p.userKeys ∧ asked = true := by
  cases asked <;> cases p <;> simp [credentials, userKeys, userKey?, or_comm]

/-- The keys of credentials are known. -/
theorem Protocol.userKeys_subset (p : Protocol) : p.userKeys ⊆ credentialKeys := by
  cases p <;> decide

/-- No other key is among credentials. -/
theorem Protocol.notMem_keys_credentials (p : Protocol) (asked : Bool) {key : String}
    (other : key ∉ credentialKeys) : key ∉ (if asked then p.credentials else []).map Prod.fst :=
  fun given => other (p.userKeys_subset ((p.mem_keys_credentials_iff asked key).1 given).1)

/-- Credentials stand under their own keys only. -/
theorem Protocol.lookup_credentials (p : Protocol) (asked : Bool) {key : String}
    (other : key ∉ credentialKeys) : (if asked then p.credentials else []).lookup key = none :=
  Option.eq_none_iff_forall_not_mem.2 fun _ found =>
    p.notMem_keys_credentials asked other (List.mem_map_of_mem (Dict.mem_of_lookup found))

/-! ### The whole -/

section Whole

variable {settings : Settings} {layout : TlsLayout} {policy : TlsPolicy} {p : Protocol}
  {asked : Bool}

/-- The block of certificates is that of the layout. -/
theorem Shows.sslConfig?_eq
    (h : Shows settings (layout.entries policy ++ if asked then p.credentials else [])) :
    sslConfig? settings = layout.block? policy := by
  rw [sslConfig?, h "sslConfig" (by decide), List.lookup_append, layout.lookup_sslConfig,
    p.lookup_credentials asked (by decide), Option.or_none]
  cases layout.block? policy with
  | none => rfl
  | some block => exact Value.members?_object block

/-- The values under a key that is not one of credentials are what is written there. -/
theorem Shows.writes_iff
    (h : Shows settings (layout.entries policy ++ if asked then p.credentials else []))
    {key : String} (mem : key ∈ securityKeys) (other : key ∉ credentialKeys) {v : Value} :
    v ∈ valuesUnder settings key ↔ layout.Writes policy key v := by
  rw [mem_valuesUnder_iff, h key mem, List.lookup_append,
    p.lookup_credentials asked other, Option.or_none, h.sslConfig?_eq,
    TlsLayout.exists_block_iff mem]
  rfl

/-- **What follows from what settings show.** -/
theorem Shows.securitySettings
    (h : Shows settings (layout.entries policy ++ if asked then p.credentials else []))
    (known : ∀ flag ∈ policy.useSystemCert, policy.skipVerify = false) :
    SecuritySettings settings layout policy (if asked then p.userKeys else []) := by
  -- Keys of the layout and keys of credentials are apart, so each entry is found in its own part.
  have tls : ∀ key ∈ tlsKeys, key ∈ securityKeys ∧ key ∉ credentialKeys := by decide
  have credential : ∀ key ∈ credentialKeys, key ∈ securityKeys := by decide
  constructor
  case tls =>
    intro key mem
    obtain ⟨listed, other⟩ := tls key mem
    rw [h.contains_iff listed, List.map_append, List.mem_append,
      or_iff_left (p.notMem_keys_credentials asked other), TlsLayout.mem_keys_entries_iff mem]
  case credentials =>
    intro key mem
    rw [h.contains_iff (credential key mem), List.map_append, List.mem_append,
      or_iff_right (TlsLayout.notMem_keys_entries mem), p.mem_keys_credentials_iff]
    cases asked <;> simp
  case skipVerify =>
    intro v
    rw [h.writes_iff (by decide) (by decide), TlsLayout.writes_skipVerify_iff]
  case useSystemCert =>
    intro v
    rw [h.writes_iff (by decide) (by decide), TlsLayout.writes_useSystemCert_iff]
  case caFile =>
    rw [h.writes_iff (by decide) (by decide), TlsLayout.writes_useSystemCert_iff,
      h.sslConfig?_eq, TlsLayout.exists_block_contains_iff (by decide),
      TlsLayout.caFile_mem_blockEntries_iff]
    refine and_congr_right fun _ => ⟨fun known => ⟨false, known, rfl⟩, ?_⟩
    rintro ⟨flag, known, eq⟩
    rw [Value.bool_injective eq]
    exact known
  case verified =>
    intro block mem written
    rcases List.mem_cons.1 mem with rfl | mem
    · rw [h.contains_iff (by decide), List.map_append, List.mem_append,
        or_iff_left (p.notMem_keys_credentials asked (by decide))] at written
      obtain ⟨⟨flag, stated⟩, found⟩ := TlsLayout.skipVerify_of_entries written
      rw [h _ (by decide), List.lookup_append, found, known flag stated]
      rfl
    · rw [h.sslConfig?_eq] at mem
      have shows := TlsLayout.shows_block (Option.mem_toList.1 mem)
      rw [shows.contains_iff (by decide)] at written
      obtain ⟨⟨flag, stated⟩, found⟩ := TlsLayout.skipVerify_of_blockEntries written
      rw [shows _ (by decide), found, known flag stated]
  case secrets =>
    intro secret mem v given
    have listed : ∀ secret ∈ EventGateway.secrets, secret.1 ∈ securityKeys := by decide
    rcases mem_valuesUnder_iff.1 given with found | inBlock
    -- A secret may stand at the top or in the block, and in both it is one of the entries.
    · rw [h _ (listed secret mem)] at found
      rcases List.mem_append.1 (Dict.mem_of_lookup found) with entered | entered
      · exact layout.keepsSecret_entries policy _ entered secret mem rfl
      · split at entered
        · exact p.keepsSecret_credentials _ entered secret mem rfl
        · cases entered
    · rw [h.sslConfig?_eq, TlsLayout.exists_block_iff (listed secret mem)] at inBlock
      exact layout.keepsSecret_blockEntries policy _ (Dict.mem_of_lookup inBlock) secret mem rfl

end Whole

/-- A policy matters only where flags are written. -/
theorem SecuritySettings.of_policy {settings : Settings} {layout : TlsLayout}
    {policy policy' : TlsPolicy} {credentials : List String}
    (h : SecuritySettings settings layout policy credentials)
    (same : layout.hasFlags = true → policy' = policy) :
    SecuritySettings settings layout policy' credentials := by
  refine ⟨h.tls, fun v => ?_, fun v => ?_, h.verified, h.caFile, h.credentials, h.secrets⟩
  · rw [h.skipVerify]
    exact and_congr_right fun flags => by rw [same flags]
  · rw [h.useSystemCert]
    exact and_congr_right fun flags => by rw [same flags]

section Endpoints

variable (p : Protocol) (e : Endpoint)

/-- **The trigger of a server**, as regards security. -/
theorem securitySettings_trigger :
    SecuritySettings (p.triggerSettings e) (if e.secure then p.triggerLayout else .absent)
      e.triggerPolicy (if e.userPassword then p.userKeys else []) :=
  (shows_triggerSettings p e).securitySettings fun _ known =>
    TlsPolicy.skipVerify_resolve _ _ known

/-- **A service of a server**, as regards security. -/
theorem securitySettings_service :
    SecuritySettings (p.serviceSettings e) (if e.secure then p.serviceLayout else .absent)
      (e.servicePolicy p) (if e.userPassword then p.userKeys else []) := by
  refine (shows_serviceSettings p e).securitySettings fun flag known => ?_
  cases p <;> exact TlsPolicy.skipVerify_resolve _ _ known

end Endpoints

end EventGateway
