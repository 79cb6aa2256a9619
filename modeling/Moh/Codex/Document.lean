/-
# The document that a refresh writes is the one it returns

`persist_atomically` writes the document that `refresh_and_persist` returns, and the next
`AuthFile::load` reads it.  A document that was read keeps the names it knows apart from
those it does not (`Sorted`); such a document, written and read again, has the same members
(`exists_read_written`), and with them the same credentials (`load_written`).
-/

import Moh.Codex.Auth

namespace Moh
namespace Members

variable {ν : Type}

/-- A name that is not in a map is not among what is written of it. -/
theorem filter_pairs_eq_nil {kept : AList fun _ : String => ν} {key : String}
    (h : kept.lookup key = none) : (pairs kept).filter (fun m => m.1 = key) = [] := by
  rw [List.filter_eq_nil_iff]
  rintro ⟨name, value⟩ hm hname
  obtain rfl : name = key := by simpa using hname
  obtain ⟨e, he, heq⟩ := List.mem_map.1 hm
  have hkey : e.1 = name := congrArg Prod.fst heq
  have hmem : name ∈ kept.keys := hkey ▸ List.mem_map.2 ⟨e, he, rfl⟩
  exact absurd (AList.lookup_eq_none.1 h) (not_not.2 (AList.mem_keys.2 hmem))

end Members

namespace Codex

variable {α : Type} {names : List String} {known : List (String × Value)}
  {extra : AList fun _ : String => Value}

/-! ### Members that are written and read -/

/-- None of the names that the reader knows is among those it keeps. -/
def Foreign (names : List String) (extra : AList fun _ : String => Value) : Prop :=
  ∀ key ∈ names, extra.lookup key = none

theorem foreign_collect (names : List String) (members : List (String × Value)) :
    Foreign names (Members.collect (isExtra names) members) := by
  intro key hkey
  exact Members.lookup_collect_of_not (by simpa [isExtra] using hkey) members

/-- A known member is read as it was written. -/
theorem optional_written {read : Value → Option α} {key : String} (hextra : Foreign names extra)
    (hkey : key ∈ names) :
    optional read (known ++ Members.pairs extra) key = optional read known key := by
  unfold optional
  rw [List.filter_append, Members.filter_pairs_eq_nil (hextra key hkey), List.append_nil]

/-- The other members are kept as they were written. -/
theorem lookup_collect_written (hextra : Foreign names extra) (hknown : ∀ m ∈ known, m.1 ∈ names)
    (key : String) :
    (Members.collect (isExtra names) (known ++ Members.pairs extra)).lookup key =
      extra.lookup key := by
  by_cases hkey : key ∈ names
  · rw [Members.lookup_collect_of_not (by simpa [isExtra] using hkey), hextra key hkey]
  · have hother : ∀ m ∈ known, m.1 ≠ key := fun m hm heq => hkey (heq ▸ hknown m hm)
    rw [Members.lookup_collect (by simpa [isExtra] using hkey), Members.last_append,
      Members.last_pairs, Members.last_eq_none hother, Option.or_none]

theorem optional_writeOptional {key : String} {o : Option String}
    (h : known.filter (fun m => m.1 = key) = [(key, writeOptional o)]) :
    optional readString known key = some o := by
  unfold optional
  rw [h]
  cases o <;> rfl

/-! ### Documents -/

/-- The members of tokens are the same. -/
structure TokenDocument.Same (t t' : TokenDocument) : Prop where
  idToken : t'.idToken = t.idToken
  accessToken : t'.accessToken = t.accessToken
  refreshToken : t'.refreshToken = t.refreshToken
  accountId : t'.accountId = t.accountId
  extra : ∀ key, t'.extra.lookup key = t.extra.lookup key

/-- The members of a document are the same. -/
structure AuthDocument.Same (d d' : AuthDocument) : Prop where
  authMode : d'.authMode = d.authMode
  openaiApiKey : d'.openaiApiKey = d.openaiApiKey
  tokens : Option.Rel TokenDocument.Same d.tokens d'.tokens
  extra : ∀ key, d'.extra.lookup key = d.extra.lookup key

/-- What the document does not know is apart from what it knows. -/
structure AuthDocument.Sorted (d : AuthDocument) : Prop where
  extra : Foreign authNames d.extra
  tokens : ∀ t, d.tokens = some t → Foreign tokenNames t.extra

/-- A document that was read is sorted. -/
theorem sorted_of_read {v : Value} {d : AuthDocument} (h : readAuthDocument v = some d) :
    d.Sorted := by
  obtain ⟨members, -, -, -, htokens, hextra⟩ := readAuthDocument_eq_some h
  constructor
  · rw [hextra]
    exact foreign_collect authNames members
  · intro t ht
    rw [ht] at htokens
    obtain ⟨v, -, hread⟩ := get?_of_optional_some htokens
    obtain ⟨names, -, -, hcollect⟩ := readTokenDocument_eq_some hread
    rw [hcollect]
    exact foreign_collect tokenNames names

/-- The tokens of a refresh leave a document sorted. -/
theorem AuthDocument.Sorted.rotate {d d' : AuthDocument} (h : d.Sorted) {r : Rotation}
    {now : String} (hr : d.rotate r now = some d') : d'.Sorted := by
  obtain ⟨t, ht, rfl⟩ := Option.map_eq_some_iff.1 hr
  constructor
  · intro key hkey
    have hne : key ≠ "last_refresh" := by
      rintro rfl
      exact absurd hkey (by decide)
    show (d.extra.insert "last_refresh" (.string now)).lookup key = none
    rw [AList.lookup_insert_ne hne]
    exact h.extra key hkey
  · intro t' ht'
    obtain rfl := Option.some.inj ht'
    exact h.tokens t ht

/-- What is written of the members that a reader of tokens knows. -/
def TokenDocument.members (t : TokenDocument) : List (String × Value) :=
  [("id_token", writeOptional t.idToken), ("access_token", writeOptional t.accessToken),
    ("refresh_token", writeOptional t.refreshToken), ("account_id", writeOptional t.accountId)]

theorem writeTokenDocument_eq (t : TokenDocument) :
    writeTokenDocument t = .object (t.members ++ Members.pairs t.extra) := rfl

/-- **Tokens that are written are read.** -/
theorem exists_read_written_tokens {t : TokenDocument} (h : Foreign tokenNames t.extra) :
    ∃ t', readTokenDocument (writeTokenDocument t) = some t' ∧ t.Same t' := by
  have hid : optional readString t.members "id_token" = some t.idToken := optional_writeOptional rfl
  have haccess : optional readString t.members "access_token" = some t.accessToken :=
    optional_writeOptional rfl
  have hrefresh : optional readString t.members "refresh_token" = some t.refreshToken :=
    optional_writeOptional rfl
  have haccount : optional readString t.members "account_id" = some t.accountId :=
    optional_writeOptional rfl
  have hknown : ∀ m ∈ t.members, m.1 ∈ tokenNames := by simp [TokenDocument.members, tokenNames]
  rw [writeTokenDocument_eq, readTokenDocument, optional_written h (by decide),
    optional_written h (by decide), optional_written h (by decide),
    optional_written h (by decide), hid, haccess, hrefresh, haccount]
  exact ⟨_, rfl, rfl, rfl, rfl, rfl, lookup_collect_written h hknown⟩

/-- What is written of the members that a reader of the document knows. -/
def AuthDocument.members (d : AuthDocument) : List (String × Value) :=
  [("auth_mode", writeOptional d.authMode), ("OPENAI_API_KEY", writeOptional d.openaiApiKey),
    ("tokens", match d.tokens with
      | none => .null
      | some t => writeTokenDocument t)]

theorem writeAuthDocument_eq (d : AuthDocument) :
    writeAuthDocument d = .object (d.members ++ Members.pairs d.extra) := rfl

/-- The tokens of a document are read as they were written. -/
theorem exists_optional_tokens {d : AuthDocument} (h : d.Sorted) :
    ∃ tokens, optional readTokenDocument d.members "tokens" = some tokens ∧
      Option.Rel TokenDocument.Same d.tokens tokens := by
  obtain ⟨authMode, openaiApiKey, tokens, extra⟩ := d
  cases tokens with
  | none => exact ⟨none, rfl, .none⟩
  | some t =>
    obtain ⟨t', hread, hsame⟩ := exists_read_written_tokens (h.tokens t rfl)
    refine ⟨some t', ?_, .some hsame⟩
    obtain ⟨members, hmembers⟩ : ∃ members, writeTokenDocument t = .object members := ⟨_, rfl⟩
    rw [hmembers] at hread
    simp [AuthDocument.members, optional, hmembers, hread]

/-- **A document that is written is read.** -/
theorem exists_read_written {d : AuthDocument} (h : d.Sorted) :
    ∃ d', readAuthDocument (writeAuthDocument d) = some d' ∧ d.Same d' := by
  have hmode : optional readString d.members "auth_mode" = some d.authMode :=
    optional_writeOptional rfl
  have hkey : optional readString d.members "OPENAI_API_KEY" = some d.openaiApiKey :=
    optional_writeOptional rfl
  obtain ⟨tokens, htokens, hsame⟩ := exists_optional_tokens h
  have hknown : ∀ m ∈ d.members, m.1 ∈ authNames := by simp [AuthDocument.members, authNames]
  rw [writeAuthDocument_eq, readAuthDocument, optional_written h.extra (by decide),
    optional_written h.extra (by decide), optional_written h.extra (by decide), hmode, hkey,
    htokens]
  exact ⟨_, rfl, rfl, rfl, hsame, lookup_collect_written h.extra hknown⟩

/-! ### Credentials -/

/-- The same members have the same credentials. -/
theorem AuthDocument.Same.credentials {d d' : AuthDocument} (h : d.Same d') :
    d'.credentials = d.credentials := by
  unfold AuthDocument.credentials
  rw [h.authMode]
  split_ifs
  · rfl
  · have htokens := h.tokens
    cases ht : d.tokens with
    | none =>
      cases ht' : d'.tokens with
      | none => rfl
      | some t' =>
        rw [ht, ht'] at htokens
        cases htokens
    | some t =>
      cases ht' : d'.tokens with
      | none =>
        rw [ht, ht'] at htokens
        cases htokens
      | some t' =>
        rw [ht, ht'] at htokens
        cases htokens with
        | some hsame => simp only [hsame.accessToken, hsame.refreshToken, hsame.accountId]

/-- **The file that was written is loaded,** with the credentials of the document. -/
theorem load_written {d : AuthDocument} (h : d.Sorted) {c : CodexCredentials}
    (hc : d.credentials = .ok c) :
    ∃ d', load (.text (some (writeAuthDocument d))) = .ok d' ∧ d.Same d' := by
  obtain ⟨d', hread, hsame⟩ := exists_read_written h
  have hc' : d'.credentials = .ok c := hsame.credentials.trans hc
  refine ⟨d', ?_, hsame⟩
  simp only [load, Option.bind_some, hread, hc']

/-! ### The credentials after a refresh -/

/-- The tokens of a response are not blank. -/
structure Rotation.Sound (r : Rotation) : Prop where
  accessToken : required (some r.accessToken) = .ok r.accessToken
  refreshToken : ∀ token, r.refreshToken = some token → required (some token) = .ok token

theorem required_some_of_required {o : Option String} {value : String}
    (h : required o = .ok value) : required (some value) = .ok value := by
  rw [← eq_some_of_required h]
  exact h

theorem required_of_notBlank {o : Option String} {token : String}
    (h : notBlank o = .ok (some token)) : required (some token) = .ok token := by
  cases o with
  | none => simp [notBlank] at h
  | some value =>
    simp only [notBlank] at h
    split_ifs at h with hblank
    obtain rfl : value = token := by simpa using h
    simp [required, hblank]

theorem sound_of_rotation {response : Response} {r : Rotation} (h : rotation response = .ok r) :
    r.Sound := by
  unfold rotation at h
  split_ifs at h with hstatus
  split at h
  · simp at h
  · rename_i rotated hread
    obtain ⟨accessToken, haccess, h⟩ := Fallible.bind_eq_ok_iff.1 h
    obtain ⟨refreshToken, hrefresh, h⟩ := Fallible.bind_eq_ok_iff.1 h
    obtain rfl := Except.ok.inj h
    refine ⟨required_some_of_required haccess, fun token htoken => ?_⟩
    obtain rfl : refreshToken = some token := htoken
    exact required_of_notBlank hrefresh

/-- The credentials of a document that a refresh replaced. -/
def CodexCredentials.rotate (c : CodexCredentials) (r : Rotation) : CodexCredentials where
  accessToken := r.accessToken
  refreshToken := r.refreshToken.getD c.refreshToken
  accountId := c.accountId

/-- **The new document has the new credentials.** -/
theorem credentials_rotate {d d' : AuthDocument} {c : CodexCredentials} {r : Rotation}
    {now : String} (hc : d.credentials = .ok c) (hr : r.Sound)
    (hrotate : d.rotate r now = some d') : d'.credentials = .ok (c.rotate r) := by
  obtain ⟨t, ht, rfl⟩ := Option.map_eq_some_iff.1 hrotate
  unfold AuthDocument.credentials at hc ⊢
  split_ifs at hc ⊢ with hmode
  rw [ht] at hc
  obtain ⟨access, -, hc⟩ := Fallible.bind_eq_ok_iff.1 hc
  obtain ⟨refresh, hrefresh, hc⟩ := Fallible.bind_eq_ok_iff.1 hc
  obtain ⟨account, haccount, hc⟩ := Fallible.bind_eq_ok_iff.1 hc
  obtain rfl := Except.ok.inj hc
  have hnew : required (r.refreshToken <|> t.refreshToken) =
      .ok (r.refreshToken.getD refresh) := by
    cases htoken : r.refreshToken with
    | none => exact hrefresh
    | some token => exact hr.refreshToken token htoken
  simp only [hr.accessToken, hnew, haccount, bind, Except.bind, CodexCredentials.rotate]

/-- What it takes for a refresh to return a document. -/
theorem refreshAndPersist_eq_ok {w : Surroundings} {document : AuthDocument} {file : Contents}
    (h : refreshAndPersist w = (some (.ok document), file)) :
    ∃ before current rotated loaded,
      (load w.before >>= AuthDocument.credentials) = .ok before ∧
      w.response.map rotation = some (.ok rotated) ∧ load w.current = .ok loaded ∧
      loaded.credentials = .ok current ∧ current.accountId = before.accountId ∧
      current.refreshToken = before.refreshToken ∧ loaded.rotate rotated w.now = some document ∧
      file = .text (some (writeAuthDocument document)) := by
  unfold refreshAndPersist at h
  split at h
  · simp at h
  split at h
  · simp at h
  rename_i before hbefore
  split at h
  · rename_i response _ hresponse
    split at h
    · simp at h
    rename_i rotated hrotated
    split at h
    · simp at h
    rename_i loaded hload
    split at h
    · simp at h
    rename_i current hcurrent
    split at h
    · simp at h
    rename_i hchanged
    push Not at hchanged
    split at h
    · simp at h
    · rename_i replaced hrotate
      split at h
      · simp at h
      · simp only [Prod.mk.injEq, Option.some.injEq, Except.ok.injEq] at h
        obtain ⟨rfl, rfl⟩ := h
        refine ⟨before, current, rotated, loaded, hbefore, ?_, hload, hcurrent, hchanged.1,
          hchanged.2, hrotate, rfl⟩
        rw [hresponse, Option.map_some, hrotated]
  · simp at h

/-- **A refresh leaves a file that the next one can start from,** whatever else was in the
document: it is loaded, with the members of the document that the refresh returned and with
the credentials of the first reading in which the tokens of the response are replaced. -/
theorem loaded_of_refreshAndPersist (w : Surroundings) (document : AuthDocument)
    (file : Contents) (h : refreshAndPersist w = (some (.ok document), file)) :
    ∃ document' before rotated, load file = .ok document' ∧ document.Same document' ∧
      w.response.map rotation = some (.ok rotated) ∧
      (load w.before >>= AuthDocument.credentials) = .ok before ∧
      document'.credentials = .ok (before.rotate rotated) := by
  obtain ⟨before, current, rotated, loaded, hbefore, hrotated, hload, hcurrent, haccount, htoken,
    hrotate, rfl⟩ := refreshAndPersist_eq_ok h
  obtain ⟨response, -, hresponse⟩ := Option.map_eq_some_iff.1 hrotated
  have hcredentials : document.credentials = .ok (before.rotate rotated) := by
    rw [credentials_rotate hcurrent (sound_of_rotation hresponse) hrotate]
    simp only [CodexCredentials.rotate, haccount, htoken]
  obtain ⟨v, -, hread⟩ := load_eq_ok hload
  have hsorted : document.Sorted := (sorted_of_read hread).rotate hrotate
  obtain ⟨document', hload', hsame⟩ := load_written hsorted hcredentials
  exact ⟨document', before, rotated, hload', hsame, hrotated, hbefore,
    hsame.credentials.trans hcredentials⟩

/-- The refresh of a document without an `OPENAI_API_KEY`. -/
theorem loaded_of_refreshAndPersist_keyless :
    ∃ document' before rotated, load (refreshAndPersist keylessRefresh).2 = .ok document' ∧
      (load keylessRefresh.before >>= AuthDocument.credentials) = .ok before ∧
      document'.credentials = .ok (before.rotate rotated) := by
  obtain ⟨document', before, rotated, hload, -, -, hbefore, hcredentials⟩ :=
    loaded_of_refreshAndPersist keylessRefresh _ _ rfl
  exact ⟨document', before, rotated, hload, hbefore, hcredentials⟩

end Codex
end Moh
