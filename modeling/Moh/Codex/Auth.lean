/-
# The credential document and its refresh

`providers/codex/auth.rs`: the document of `auth.json` (`AuthDocument`), its credentials,
and `refresh_and_persist`, which reads the file, asks the server for new tokens, reads the
file again and replaces it.  What happens around it is given with `Surroundings`: the lock,
what is in the file at either reading, the response, and where the replacement fails.

The file and the response are JSON values; the members that the document does not know are
collected in a map and written back from it.  `serde` reads an absent optional member as
`None` and writes it as `null`: so the replaced document spells out an `OPENAI_API_KEY`
that was absent (`apiKey_spelled_out`), and is otherwise the one that was read again, with
the tokens and the time of the refresh replaced (`refreshed_of_refreshAndPersist`).
-/

import Moh.Codex.Errors
import Moh.Library.Fallible
import Moh.Library.Members
import Moh.Library.Unicode

namespace Moh

/-- The member of an object; the last one of the name counts. -/
def Value.get? (v : Value) (key : String) : Option Value :=
  match v with
  | .object members => Members.last key members
  | _ => none

namespace Codex

/-! ### Documents -/

/-- `TokenDocument`. -/
structure TokenDocument where
  idToken : Option String
  accessToken : Option String
  refreshToken : Option String
  accountId : Option String
  extra : AList fun _ : String => Value

/-- `AuthDocument`. -/
structure AuthDocument where
  authMode : Option String
  openaiApiKey : Option String
  tokens : Option TokenDocument
  extra : AList fun _ : String => Value

/-- An optional member that a reader knows: `null` is absent, and a name may occur once. -/
def optional {α : Type} (read : Value → Option α) (members : List (String × Value))
    (key : String) : Option (Option α) :=
  match members.filter fun m => m.1 = key with
  | [] => some none
  | [(_, .null)] => some none
  | [(_, v)] => (read v).map some
  | _ => none

/-- A string. -/
def readString : Value → Option String
  | .string s => some s
  | _ => none

/-- A name that a reader who knows `names` leaves to the map. -/
def isExtra (names : List String) (key : String) : Bool := !names.contains key

/-- The names that `TokenDocument` knows. -/
def tokenNames : List String := ["id_token", "access_token", "refresh_token", "account_id"]

/-- `TokenDocument` as `serde` reads it. -/
def readTokenDocument : Value → Option TokenDocument
  | .object members => do
    let idToken ← optional readString members "id_token"
    let accessToken ← optional readString members "access_token"
    let refreshToken ← optional readString members "refresh_token"
    let accountId ← optional readString members "account_id"
    some ⟨idToken, accessToken, refreshToken, accountId,
      Members.collect (isExtra tokenNames) members⟩
  | _ => none

/-- The names that `AuthDocument` knows. -/
def authNames : List String := ["auth_mode", "OPENAI_API_KEY", "tokens"]

/-- `AuthDocument` as `serde` reads it. -/
def readAuthDocument : Value → Option AuthDocument
  | .object members => do
    let authMode ← optional readString members "auth_mode"
    let openaiApiKey ← optional readString members "OPENAI_API_KEY"
    let tokens ← optional readTokenDocument members "tokens"
    some ⟨authMode, openaiApiKey, tokens,
      Members.collect (isExtra authNames) members⟩
  | _ => none

/-- An optional string as `serde` writes it. -/
def writeOptional : Option String → Value
  | none => .null
  | some s => .string s

/-- `TokenDocument` as `serde` writes it. -/
def writeTokenDocument (t : TokenDocument) : Value :=
  .object ([("id_token", writeOptional t.idToken), ("access_token", writeOptional t.accessToken),
    ("refresh_token", writeOptional t.refreshToken),
    ("account_id", writeOptional t.accountId)] ++ Members.pairs t.extra)

/-- `AuthDocument` as `serde` writes it. -/
def writeAuthDocument (d : AuthDocument) : Value :=
  .object ([("auth_mode", writeOptional d.authMode),
    ("OPENAI_API_KEY", writeOptional d.openaiApiKey),
    ("tokens", match d.tokens with
      | none => .null
      | some t => writeTokenDocument t)] ++ Members.pairs d.extra)

/-! ### Credentials -/

/-- `CodexCredentials`. -/
structure CodexCredentials where
  accessToken : String
  refreshToken : String
  accountId : String
deriving DecidableEq, Repr

/-- A credential that is neither absent nor blank. -/
def required : Option String → Except AuthError String
  | some value =>
    if Unicode.isBlank value.toList then .error .missingCredentialField else .ok value
  | none => .error .missingCredentialField

/-- `AuthFile::credentials`. -/
def AuthDocument.credentials (d : AuthDocument) : Except AuthError CodexCredentials :=
  if d.authMode ≠ some "chatgpt" then .error .unsupportedAuthMode
  else
    match d.tokens with
    | none => .error .missingCredentialField
    | some tokens => do
      let accessToken ← required tokens.accessToken
      let refreshToken ← required tokens.refreshToken
      let accountId ← required tokens.accountId
      .ok ⟨accessToken, refreshToken, accountId⟩

/-- What is at the path of the document: nothing, something that cannot be read, or a
text, with the JSON value that it is, if it is one. -/
inductive Contents where
  | missing
  | unreadable
  | text (parsed : Option Value)

/-- `load_sync`. -/
def load : Contents → Except AuthError AuthDocument
  | .missing => .error .fileRequired
  | .unreadable => .error .read
  | .text parsed =>
    match parsed.bind readAuthDocument with
    | none => .error .malformed
    | some document =>
      match document.credentials with
      | .error error => .error error
      | .ok _ => .ok document

/-! ### The response -/

/-- A response: its status, and its body if that is a JSON value. -/
structure Response where
  status : ℕ
  body : Option Value

/-- `RefreshResponse`. -/
structure RefreshResponse where
  accessToken : Option String
  refreshToken : Option String
  idToken : Option String
deriving DecidableEq, Repr

/-- An optional string at a place of a sequence. -/
def optionalString : Value → Option (Option String)
  | .null => some none
  | .string s => some (some s)
  | _ => none

/-- `RefreshResponse` as `serde` reads it: an object, or the sequence of its fields. -/
def readRefreshResponse : Value → Option RefreshResponse
  | .object members => do
    let accessToken ← optional readString members "access_token"
    let refreshToken ← optional readString members "refresh_token"
    let idToken ← optional readString members "id_token"
    some ⟨accessToken, refreshToken, idToken⟩
  | .array [accessToken, refreshToken, idToken] => do
    let accessToken ← optionalString accessToken
    let refreshToken ← optionalString refreshToken
    let idToken ← optionalString idToken
    some ⟨accessToken, refreshToken, idToken⟩
  | _ => none

/-- `RefreshErrorValue`, by the code that it carries. -/
def readRefreshErrorValue : Value → Option (Option String)
  | .string code => some (some code)
  | .object members => optional readString members "code"
  | _ => none

/-- `RefreshErrorEnvelope` and `refresh_error_code`. -/
def refreshErrorCode : Value → Option String
  | .object members => do
    let error ← optional readRefreshErrorValue members "error"
    let code ← optional readString members "code"
    match error with
    | some code => code
    | none => code
  | .array [error, code] => do
    let error ← match error with
      | .null => some none
      | error => (readRefreshErrorValue error).map some
    let code ← optionalString code
    match error with
    | some code => code
    | none => code
  | _ => none

/-- The failure of a response that is not a success. -/
def refusal (response : Response) : AuthError :=
  let code := response.body.bind refreshErrorCode
  if code = some "refresh_token_expired" ∨ code = some "refresh_token_reused" ∨
      code = some "refresh_token_invalidated" ∨ 400 ≤ response.status ∧ response.status < 500 then
    .refreshFailed
  else .refreshTransport

/-- A token of the response that must not be blank where there is one. -/
def notBlank : Option String → Except AuthError (Option String)
  | none => .ok none
  | some token =>
    if Unicode.isBlank token.toList then .error .missingCredentialField else .ok (some token)

/-! ### The refresh -/

/-- The tokens that replace those of the document. -/
structure Rotation where
  accessToken : String
  refreshToken : Option String
  idToken : Option String
deriving DecidableEq, Repr

/-- What a response of the server brings. -/
def rotation (response : Response) : Except AuthError Rotation :=
  if ¬(200 ≤ response.status ∧ response.status < 300) then .error (refusal response)
  else
    match response.body.bind readRefreshResponse with
    | none => .error .refreshTransport
    | some rotated => do
      let accessToken ← required rotated.accessToken
      let refreshToken ← notBlank rotated.refreshToken
      .ok ⟨accessToken, refreshToken, rotated.idToken⟩

/-- The update of the document; there is none where its `expect` fails. -/
def AuthDocument.rotate (d : AuthDocument) (r : Rotation) (now : String) : Option AuthDocument :=
  d.tokens.map fun tokens =>
    { d with
      tokens := some { tokens with
        accessToken := some r.accessToken
        refreshToken := r.refreshToken <|> tokens.refreshToken
        idToken := r.idToken <|> tokens.idToken }
      extra := d.extra.insert "last_refresh" (.string now) }

/-- The steps of `persist_atomically`, of which the last one replaces the file. -/
inductive PersistStep where
  | parent
  | create
  | permissions
  | write
  | sync
  | rename
deriving DecidableEq, Repr

/-- What happens around a refresh: whether the lock is got, what is in the file at the first
reading, whether there is a client, the response if there is one, what is in the file from
the second reading on, the time, and the step at which the replacement fails, if it does. -/
structure Surroundings where
  lock : Except AuthError Unit
  before : Contents
  client : Bool
  response : Option Response
  current : Contents
  now : String
  failure : Option PersistStep

/-- `refresh_and_persist`: its result, and what is in the file then.  There is no result
where the `expect` fails. -/
def refreshAndPersist (w : Surroundings) : Option (Except AuthError AuthDocument) × Contents :=
  match w.lock with
  | .error error => (some (.error error), w.current)
  | .ok () =>
    match load w.before >>= AuthDocument.credentials with
    | .error error => (some (.error error), w.current)
    | .ok before =>
      match w.client, w.response with
      | true, some response =>
        match rotation response with
        | .error error => (some (.error error), w.current)
        | .ok rotated =>
          match load w.current with
          | .error error => (some (.error error), w.current)
          | .ok document =>
            match document.credentials with
            | .error error => (some (.error error), w.current)
            | .ok credentials =>
              if credentials.accountId ≠ before.accountId ∨
                  credentials.refreshToken ≠ before.refreshToken then
                (some (.error .concurrentCredentialChange), w.current)
              else
                match document.rotate rotated w.now with
                | none => (none, w.current)
                | some document =>
                  match w.failure with
                  | some _ => (some (.error .persist), w.current)
                  | none => (some (.ok document), .text (some (writeAuthDocument document)))
      | _, _ => (some (.error .refreshTransport), w.current)

/-! ### What is read and what is written -/

/-- An optional member that is absent is not there, or `null`. -/
theorem get?_of_optional_none {α : Type} {read : Value → Option α}
    {members : List (String × Value)} {key : String}
    (h : optional read members key = some none) :
    ((Value.object members).get? key).getD .null = .null := by
  show (Members.last key members).getD .null = .null
  rw [Members.last_eq_getLast?]
  unfold optional at h
  split at h
  · rename_i hf
    rw [hf]
    rfl
  · rename_i name hf
    rw [hf]
    rfl
  · simp at h
  · simp at h

/-- An optional member that is there was read from its value. -/
theorem get?_of_optional_some {α : Type} {read : Value → Option α}
    {members : List (String × Value)} {key : String} {a : α}
    (h : optional read members key = some (some a)) :
    ∃ v, (Value.object members).get? key = some v ∧ read v = some a := by
  show ∃ v, Members.last key members = some v ∧ read v = some a
  rw [Members.last_eq_getLast?]
  unfold optional at h
  split at h
  · simp at h
  · simp at h
  · rename_i name v hnull hf
    rw [hf]
    exact ⟨v, rfl, by simpa using h⟩
  · simp at h

theorem eq_string_of_readString {v : Value} {s : String} (h : readString v = some s) :
    v = .string s := by
  cases v <;> simp_all [readString]

/-- A string that is read is written as it was; an absent one becomes `null`. -/
theorem writeOptional_of_optional {members : List (String × Value)} {key : String}
    {o : Option String} (h : optional readString members key = some o) :
    writeOptional o = ((Value.object members).get? key).getD .null := by
  cases o with
  | none => exact (get?_of_optional_none h).symm
  | some s =>
    obtain ⟨v, hv, hs⟩ := get?_of_optional_some h
    rw [hv, eq_string_of_readString hs]
    rfl

/-- A string that is there is written as it was. -/
theorem get?_of_optional_string {members : List (String × Value)} {key s : String}
    (h : optional readString members key = some (some s)) :
    (Value.object members).get? key = some (.string s) := by
  obtain ⟨v, hv, hs⟩ := get?_of_optional_some h
  rw [hv, eq_string_of_readString hs]

/-- A member behind the known ones. -/
theorem get?_written (known : List (String × Value)) (extra : AList fun _ : String => Value)
    (key : String) : (Value.object (known ++ Members.pairs extra)).get? key =
      (extra.lookup key).or (Members.last key known) := by
  show Members.last key (known ++ Members.pairs extra) = _
  rw [Members.last_append, Members.last_pairs]

/-- A known member, whose name is not kept. -/
theorem get?_known {known : List (String × Value)} {extra : AList fun _ : String => Value}
    {key : String} {written : Value} (hextra : extra.lookup key = none)
    (hknown : Members.last key known = some written) :
    (Value.object (known ++ Members.pairs extra)).get? key = some written := by
  rw [get?_written, hextra, hknown]
  rfl

/-- A member that is kept under a name that is not known. -/
theorem get?_unknown {known : List (String × Value)} {extra : AList fun _ : String => Value}
    {key : String} (hkey : ∀ m ∈ known, m.1 ≠ key) :
    (Value.object (known ++ Members.pairs extra)).get? key = extra.lookup key := by
  rw [get?_written, Members.last_eq_none hkey, Option.or_none]

/-- The two objects differ at most in the members with these names. -/
def OnlyIn (names : List String) (v v' : Value) : Prop :=
  ∀ key, key ∉ names → v'.get? key = v.get? key

/-- What was read of tokens. -/
theorem readTokenDocument_eq_some {v : Value} {t : TokenDocument}
    (ht : readTokenDocument v = some t) :
    ∃ members, v = .object members ∧ optional readString members "account_id" = some t.accountId ∧
      t.extra = Members.collect (isExtra tokenNames) members := by
  cases v with
  | object members =>
    simp only [readTokenDocument, Option.bind_eq_bind, Option.bind_eq_some_iff] at ht
    obtain ⟨idToken, -, accessToken, -, refreshToken, -, accountId, hread, ht⟩ := ht
    obtain rfl := Option.some.inj ht
    exact ⟨members, rfl, hread, rfl⟩
  | _ => simp [readTokenDocument] at ht

/-- **Tokens that are read and written again:** what the reader does not know, and the
account, are kept. -/
theorem onlyIn_writeTokenDocument {v : Value} {t : TokenDocument}
    (ht : readTokenDocument v = some t) {account : String} (ha : t.accountId = some account)
    {t' : TokenDocument} (hextra : t'.extra = t.extra) (haccount : t'.accountId = t.accountId) :
    OnlyIn ["access_token", "refresh_token", "id_token"] v (writeTokenDocument t') := by
  obtain ⟨members, rfl, hread, hcollect⟩ := readTokenDocument_eq_some ht
  intro key hkey
  simp only [List.mem_cons, List.not_mem_nil, or_false, not_or] at hkey
  obtain ⟨haccess, hrefresh, hid⟩ := hkey
  by_cases hk : key = "account_id"
  · subst hk
    have hnone : t'.extra.lookup "account_id" = none := by
      rw [hextra, hcollect, Members.lookup_collect_of_not (by decide)]
    rw [writeTokenDocument, get?_known hnone rfl, haccount, ha]
    rw [ha] at hread
    exact (get?_of_optional_string hread).symm
  · have hunknown : isExtra tokenNames key = true := by
      simp [isExtra, tokenNames, haccess, hrefresh, hid, hk]
    rw [writeTokenDocument, get?_unknown, hextra, hcollect]
    · exact Members.lookup_collect hunknown members
    · intro m hm
      simp only [List.mem_cons, List.not_mem_nil, or_false] at hm
      rcases hm with rfl | rfl | rfl | rfl
      · exact fun he => hid he.symm
      · exact fun he => haccess he.symm
      · exact fun he => hrefresh he.symm
      · exact fun he => hk he.symm

/-- **The document that replaces the one that was read again:** the tokens and the time are
those of the refresh; an absent `OPENAI_API_KEY` is spelled out; the rest is kept. -/
structure TokensReplaced (v v' : Value) (r : Rotation) (now : String) : Prop where
  others : OnlyIn ["tokens", "last_refresh", "OPENAI_API_KEY"] v v'
  apiKey : v'.get? "OPENAI_API_KEY" = some ((v.get? "OPENAI_API_KEY").getD .null)
  lastRefresh : v'.get? "last_refresh" = some (.string now)
  tokens : ∃ t t', v.get? "tokens" = some t ∧ v'.get? "tokens" = some t' ∧
    OnlyIn ["access_token", "refresh_token", "id_token"] t t' ∧
    t'.get? "access_token" = some (.string r.accessToken)

theorem eq_some_of_required {o : Option String} {value : String} (h : required o = .ok value) :
    o = some value := by
  unfold required at h
  split at h
  · split_ifs at h
    rw [Except.ok.inj h]
  · simp at h

/-- Credentials are those of a ChatGPT document with an account. -/
theorem credentials_eq_ok {d : AuthDocument} {c : CodexCredentials}
    (h : d.credentials = .ok c) :
    d.authMode = some "chatgpt" ∧ ∃ t, d.tokens = some t ∧ t.accountId = some c.accountId := by
  unfold AuthDocument.credentials at h
  split_ifs at h with hmode
  refine ⟨by simpa using hmode, ?_⟩
  split at h
  · simp at h
  · rename_i t ht
    obtain ⟨access, -, h⟩ := Fallible.bind_eq_ok_iff.1 h
    obtain ⟨refresh, -, h⟩ := Fallible.bind_eq_ok_iff.1 h
    obtain ⟨account, ha, h⟩ := Fallible.bind_eq_ok_iff.1 h
    obtain rfl := Except.ok.inj h
    exact ⟨t, ht, eq_some_of_required ha⟩

/-- A document that is loaded has credentials. -/
theorem load_eq_ok {contents : Contents} {d : AuthDocument} (h : load contents = .ok d) :
    ∃ v, contents = .text (some v) ∧ readAuthDocument v = some d := by
  unfold load at h
  split at h
  · simp at h
  · simp at h
  · rename_i parsed
    split at h
    · simp at h
    · rename_i document hd
      split at h
      · simp at h
      · obtain rfl := Except.ok.inj h
        obtain ⟨v, rfl, hv⟩ := Option.bind_eq_some_iff.1 hd
        exact ⟨v, rfl, hv⟩

/-- What was read of a document. -/
theorem readAuthDocument_eq_some {v : Value} {d : AuthDocument} (hd : readAuthDocument v = some d) :
    ∃ members, v = .object members ∧ optional readString members "auth_mode" = some d.authMode ∧
      optional readString members "OPENAI_API_KEY" = some d.openaiApiKey ∧
      optional readTokenDocument members "tokens" = some d.tokens ∧
      d.extra = Members.collect (isExtra authNames) members := by
  cases v with
  | object members =>
    simp only [readAuthDocument, Option.bind_eq_bind, Option.bind_eq_some_iff] at hd
    obtain ⟨authMode, hmode, apiKey, hkey, tokens, htokens, hd⟩ := hd
    obtain rfl := Option.some.inj hd
    exact ⟨members, rfl, hmode, hkey, htokens, rfl⟩
  | _ => simp [readAuthDocument] at hd

/-- **The update of a document that was read:** nothing but what the refresh brings. -/
theorem tokensReplaced_of_rotate {v : Value} {d d' : AuthDocument}
    (hd : readAuthDocument v = some d) {c : CodexCredentials} (hc : d.credentials = .ok c)
    {r : Rotation} {now : String} (hr : d.rotate r now = some d') :
    TokensReplaced v (writeAuthDocument d') r now := by
  obtain ⟨members, rfl, hmode, hkey, htokens, hcollect⟩ := readAuthDocument_eq_some hd
  obtain ⟨hchatgpt, t, ht, haccount⟩ := credentials_eq_ok hc
  rw [hchatgpt] at hmode
  rw [ht] at htokens
  obtain ⟨read, hread, hreadTokens⟩ := get?_of_optional_some htokens
  obtain rfl : _ = d' := by simpa [AuthDocument.rotate, ht] using hr
  have hkept {key : String} (hk : isExtra authNames key = false) :
      (d.extra.insert "last_refresh" (.string now)).lookup key = none := by
    have hne : key ≠ "last_refresh" := by
      rintro rfl
      exact absurd hk (by decide)
    rw [AList.lookup_insert_ne hne, hcollect, Members.lookup_collect_of_not hk]
  refine ⟨fun key hnames => ?_, ?_, ?_, read, _, hread, get?_known (hkept (by decide)) rfl,
    onlyIn_writeTokenDocument hreadTokens haccount rfl rfl, ?_⟩
  · simp only [List.mem_cons, List.not_mem_nil, or_false, not_or] at hnames
    obtain ⟨htok, hlast, hapi⟩ := hnames
    by_cases hk : key = "auth_mode"
    · subst hk
      rw [writeAuthDocument, get?_known (hkept (by decide)) rfl, get?_of_optional_string hmode,
        hchatgpt]
      rfl
    · have hunknown : isExtra authNames key = true := by
        simp [isExtra, authNames, htok, hapi, hk]
      rw [writeAuthDocument, get?_unknown, AList.lookup_insert_ne hlast, hcollect]
      · exact Members.lookup_collect hunknown members
      · intro m hm
        simp only [List.mem_cons, List.not_mem_nil, or_false] at hm
        rcases hm with rfl | rfl | rfl
        · exact fun he => hk he.symm
        · exact fun he => hapi he.symm
        · exact fun he => htok he.symm
  · rw [writeAuthDocument, get?_known (hkept (by decide)) rfl, writeOptional_of_optional hkey]
  · rw [writeAuthDocument, get?_written, AList.lookup_insert]
    rfl
  · obtain ⟨names, -, -, hextra⟩ := readTokenDocument_eq_some hreadTokens
    have hnone : t.extra.lookup "access_token" = none := by
      rw [hextra, Members.lookup_collect_of_not (by decide)]
    exact get?_known hnone rfl

/-- **What a refresh does to the file,** whatever is in it at either reading, whatever the
server responds and wherever the replacement fails: it ends in an error and the file is
what it was, or the tokens of the document that was read again are replaced, which is of
the account and has the refresh token that the refresh was made for. -/
theorem refreshed_of_refreshAndPersist (w : Surroundings) :
    (∃ error, refreshAndPersist w = (some (.error error), w.current)) ∨
      ∃ document v v' r, refreshAndPersist w = (some (.ok document), .text (some v')) ∧
        w.current = .text (some v) ∧ TokensReplaced v v' r w.now ∧
        w.response.map rotation = some (.ok r) ∧
        ∃ before current : CodexCredentials,
          (load w.before >>= AuthDocument.credentials) = .ok before ∧
          (load w.current >>= AuthDocument.credentials) = .ok current ∧
          current.accountId = before.accountId ∧
          current.refreshToken = before.refreshToken := by
  unfold refreshAndPersist
  split
  · exact .inl ⟨_, rfl⟩
  split
  · exact .inl ⟨_, rfl⟩
  rename_i before hbefore
  split
  · rename_i response _ hresponse
    split
    · exact .inl ⟨_, rfl⟩
    rename_i rotated hrotated
    split
    · exact .inl ⟨_, rfl⟩
    rename_i document hload
    split
    · exact .inl ⟨_, rfl⟩
    rename_i credentials hcredentials
    split_ifs with hchanged
    · exact .inl ⟨_, rfl⟩
    push Not at hchanged
    obtain ⟨v, hcurrent, hread⟩ := load_eq_ok hload
    split
    · -- The `expect` does not fail: there are credentials, so there are tokens.
      rename_i hnone
      obtain ⟨-, t, ht, -⟩ := credentials_eq_ok hcredentials
      simp [AuthDocument.rotate, ht] at hnone
    · rename_i replaced hrotate
      split
      · exact .inl ⟨_, rfl⟩
      · refine .inr ⟨replaced, v, _, rotated, rfl, hcurrent,
          tokensReplaced_of_rotate hread hcredentials hrotate, ?_, before, credentials, hbefore, ?_,
          hchanged.1, hchanged.2⟩
        · rw [hresponse, Option.map_some, hrotated]
        · rw [hload]
          exact hcredentials
  · exact .inl ⟨_, rfl⟩

/-- A document without an `OPENAI_API_KEY`. -/
def keylessDocument : Value :=
  .object [("auth_mode", .string "chatgpt"),
    ("tokens", .object [("id_token", .string "id"), ("access_token", .string "access"),
      ("refresh_token", .string "refresh"), ("account_id", .string "account-123"),
      ("future_token_field", .string "preserve-me")]),
    ("last_refresh", .string "2026-08-13T10:00:00Z"),
    ("future_top_level_field", .object [("enabled", .bool true)])]

/-- A refresh of that document in which nothing fails. -/
def keylessRefresh : Surroundings where
  lock := .ok ()
  before := .text (some keylessDocument)
  client := true
  response := some ⟨200, some (.object [("access_token", .string "rotated")])⟩
  current := .text (some keylessDocument)
  now := "2026-10-14T10:00:00Z"
  failure := none

/-- **An absent `OPENAI_API_KEY` is spelled out** as `null`: the document that is written
differs from the one that was read again in a member that is neither a token nor the time
of the refresh. -/
theorem apiKey_spelled_out :
    ¬∀ (w : Surroundings) (document : AuthDocument) (v v' : Value),
      refreshAndPersist w = (some (.ok document), .text (some v')) →
        w.current = .text (some v) → OnlyIn ["tokens", "last_refresh"] v v' := by
  intro hall
  have hv := hall keylessRefresh _ keylessDocument _ rfl rfl "OPENAI_API_KEY" (by decide)
  have hwritten : (none : Option Value) = some .null := hv.symm
  simp at hwritten

end Codex
end Moh
