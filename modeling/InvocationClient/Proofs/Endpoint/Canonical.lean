import InvocationClient.Proofs.Client.Destination
import InvocationClient.Proofs.Endpoint.Acceptance
import InvocationClient.Proofs.Endpoint.Rejection

/-! # Canonical endpoints

An endpoint that has been read can be written out and read again, just as it is and in the way that
URLs show it. Putting a host in brackets a second time changes nothing, so that base URLs tell
endpoints apart exactly as far as URLs show them differently.
-/

namespace InvocationClient.Endpoint

variable {given : Option String} {e e' : Endpoint} {host : String}

def text (e : Endpoint) : String := e.host ++ ":" ++ toString e.port

def shown (e : Endpoint) : Endpoint := { e with host := urlHost e.host }

/-- What can come of reading an endpoint: a sound one whose host does not begin with a blank. -/
structure Readable (e : Endpoint) : Prop extends Sound e where
  unpadded : ∀ c ∈ e.host.toList.head?, Text.isBlank c = false

theorem toList_text (e : Endpoint) :
    e.text.toList = e.host.toList ++ ':' :: (toString e.port).toList := by
  simp [text]

theorem head?_spelled (h : host ≠ "") (cs : List Char) :
    (host.toList ++ ':' :: cs).head? = host.toList.head? := by
  have hn : host.toList ≠ [] := mt String.toList_eq_nil_iff.mp h
  cases hh : host.toList with
  | nil => exact absurd hh hn
  | cons c rest => rfl

theorem Spells.readable {text : String} {digits : List Char} (h : Spells text e digits) :
    e.Readable where
  named := h.named
  balanced := isBalanced_iff.mpr h.brackets
  positive := h.positive
  bounded := Nat.lt_succ_of_le h.bounded
  unpadded := by
    rw [← head?_spelled h.named digits]
    exact h.trimmed.isTrim.head

theorem readable_of_parse (h : parse given = .ok e) : e.Readable := by
  cases given with
  | none => cases h
  | some text =>
    obtain ⟨digits, hs⟩ := exists_spells_of_parse h
    exact hs.readable

theorem ofDigits_toString (n : Nat) : Number.ofDigits (toString n).toList = n := by
  simpa using Number.ofDigits_toDigits n

theorem length_port_le (h : e.Sound) : (toString e.port).toList.length ≤ 4300 := by
  have hb : e.port < 10 ^ 5 := Nat.lt_trans h.bounded (by decide)
  have hl := (Nat.length_toDigits_le_iff (by decide) (by decide)).mpr hb
  simpa using Nat.le_trans hl (by decide)

theorem isTrim_text (h : e.Readable) :
    Text.IsTrim (e.host.toList ++ ':' :: (toString e.port).toList) where
  head := by
    rw [head?_spelled h.named]
    exact h.unpadded
  last := by
    intro c hc
    rw [List.append_cons] at hc
    exact Text.not_isBlank_of_isDigit (isDigit_of_getLast? hc)

theorem spells_text (h : e.Readable) : Spells e.text e (toString e.port).toList where
  trimmed := by
    rw [toList_text]
    exact (isTrim_text h).trimsTo
  named := h.named
  brackets := isBalanced_iff.mp h.balanced
  numbered := by simp
  decimal _ hd := isDigit_of_mem_toString hd
  short := length_port_le h.toSound
  value := ofDigits_toString e.port
  positive := h.positive
  bounded := Nat.le_of_lt_succ h.bounded

theorem parse_text (h : e.Readable) : parse (some e.text) = .ok e :=
  parse_of_spells (spells_text h)

theorem isBalanced_urlHost (h : isBalanced host.toList = true) :
    isBalanced (urlHost host).toList = true := by
  rw [toList_urlHost]
  split
  · exact isBalanced_iff.mpr ⟨fun _ => List.getLast?_eq_some_iff.mpr ⟨'[' :: host.toList, rfl⟩,
      fun _ => rfl⟩
  · exact h

theorem Readable.shown (h : e.Readable) : e.shown.Readable where
  named := by
    intro hn
    have hc : (urlHost e.host).toList = [] := String.toList_eq_nil_iff.mpr hn
    rw [toList_urlHost] at hc
    split at hc
    · cases hc
    · exact h.named (String.toList_eq_nil_iff.mp hc)
  balanced := isBalanced_urlHost h.balanced
  positive := h.positive
  bounded := h.bounded
  unpadded := by
    change ∀ c ∈ (urlHost e.host).toList.head?, Text.isBlank c = false
    rw [toList_urlHost]
    split
    · rintro c ⟨⟩
      decide
    · exact h.unpadded

/-- A host that is shown in brackets begins with one, so that it stays as it is. -/
theorem urlHost_urlHost (host : String) : urlHost (urlHost host) = urlHost host := by
  have hn : ¬ (':' ∈ (urlHost host).toList ∧ (urlHost host).toList.head? ≠ some '[') := by
    rw [toList_urlHost]
    split
    · rintro ⟨-, hh⟩
      exact hh rfl
    · next h => exact h
  rw [← String.toList_inj, toList_urlHost (urlHost host), if_neg hn]

theorem baseUrl_eq (e : Endpoint) : e.baseUrl = "http://" ++ e.shown.text := by
  simp only [baseUrl, text, shown, String.append_assoc]

theorem baseUrl_shown (e : Endpoint) : e.shown.baseUrl = e.baseUrl := by
  rw [baseUrl, shown, urlHost_urlHost, baseUrl]

/-- The last colon of what is written out stands before the port. -/
theorem text_inj : e.text = e'.text ↔ e = e' := by
  constructor
  · intro h
    have hs : ∀ e : Endpoint, Text.splitLast? (· = ':') e.text.toList =
        some (e.host.toList, (toString e.port).toList) := by
      intro e
      rw [toList_text]
      exact Text.splitLast?_append (Text.not_isSeparator_of_not_mem (not_mem_port (by decide))) rfl
    obtain ⟨hh, hp⟩ := Prod.mk.inj (Option.some.inj ((hs e).symm.trans (h ▸ hs e')))
    have hn := congrArg Number.ofDigits hp
    rw [ofDigits_toString, ofDigits_toString] at hn
    obtain ⟨host, port⟩ := e
    obtain ⟨host', port'⟩ := e'
    obtain rfl : host = host' := String.toList_inj.mp hh
    obtain rfl : port = port' := hn
    rfl
  · rintro rfl
    rfl

theorem baseUrl_inj_iff :
    e.baseUrl = e'.baseUrl ↔ e.port = e'.port ∧ urlHost e.host = urlHost e'.host := by
  rw [baseUrl_eq, baseUrl_eq, String.append_right_inj, text_inj, shown, shown, mk.injEq]
  exact and_comm

theorem exists_client_of_parse (h : parse given = .ok e) (registry : Registry)
    (process : Environment) (version : String) (options : Options) :
    ∃ c, (Client.make registry process version options given).result = .ok c ∧ c.endpoint = e := by
  have hm := result_make registry process version options given
  rw [h] at hm
  cases hc : (Client.make registry process version options given).result with
  | error f =>
    rw [hc] at hm
    cases hm
  | ok c =>
    rw [hc] at hm
    exact ⟨c, rfl, Except.ok.inj hm⟩

/-- An endpoint that has been read is read again from what it is written out as, and from the
authority of its base URL in the way that this shows it. Clients and HTTP connections for either
have this base URL, which other endpoints share exactly if they have the same port and the same host
as URLs show it. -/
theorem parse_canonical (h : parse given = .ok e) :
    parse (some (e.host ++ ":" ++ toString e.port)) = .ok e ∧
    (∃ authority, e.baseUrl = "http://" ++ authority ∧
      parse (some authority) = .ok ⟨urlHost e.host, e.port⟩ ∧
      ∀ (registry : Registry) (process : Environment) (version : String) (options : Options),
        (∃ c, (Client.make registry process version options given).result = .ok c ∧
          c.baseUrl = e.baseUrl ∧
          ∀ replies, ∃ connection, c.connect replies = .http connection ∧
            connection.baseUrl = c.baseUrl) ∧
        ∃ c, (Client.make registry process version options (some authority)).result = .ok c ∧
          c.baseUrl = e.baseUrl) ∧
    ∀ given' e', parse given' = .ok e' →
      (e.baseUrl = e'.baseUrl ↔ e.port = e'.port ∧ urlHost e.host = urlHost e'.host) := by
  have hr := readable_of_parse h
  have hs : parse (some e.shown.text) = .ok e.shown := parse_text hr.shown
  refine ⟨parse_text hr, ⟨e.shown.text, baseUrl_eq e, hs, ?_⟩, fun given' e' _ => baseUrl_inj_iff⟩
  intro registry process version options
  constructor
  · obtain ⟨c, hc, rfl⟩ := exists_client_of_parse h registry process version options
    exact ⟨c, hc, rfl, fun replies => Client.connect_leadsTo c replies⟩
  · obtain ⟨c, hc, he⟩ := exists_client_of_parse hs registry process version options
    exact ⟨c, hc, by rw [Client.baseUrl, he, baseUrl_shown]⟩

/-- An address without brackets and one with them, of the same base URL. -/
theorem parse_canonical_brackets :
    parse (some " ::1:0080") = .ok ⟨"::1", 80⟩ ∧ parse (some "[::1]:80") = .ok ⟨"[::1]", 80⟩ ∧
      parse (some "::1:80") = .ok ⟨"::1", 80⟩ ∧
      (⟨"::1", 80⟩ : Endpoint).baseUrl = (⟨"[::1]", 80⟩ : Endpoint).baseUrl := by
  have hp : parse (some " ::1:0080") = .ok ⟨"::1", 80⟩ := rfl
  have hb : parse (some "[::1]:80") = .ok ⟨"[::1]", 80⟩ := rfl
  obtain ⟨ht, -, hu⟩ := parse_canonical hp
  exact ⟨hp, hb, ht, (hu _ _ hb).mpr ⟨rfl, rfl⟩⟩

end InvocationClient.Endpoint
