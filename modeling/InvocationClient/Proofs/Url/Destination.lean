import InvocationClient.Endpoint
import InvocationClient.Proofs.Url.Components

/-! # Destinations

Where the URL of an endpoint leads with a path behind it. It leads to the endpoint itself unless the
host holds a character that ends the authority of a URL or sets user information apart.
-/

namespace InvocationClient.Endpoint

variable {e : Endpoint} {given : Option String} {host path : String} {c : Char} {n : Nat}

/-- The URL that leads to a path at an endpoint, and to nothing else there. -/
def url (e : Endpoint) (path : String) : Url where
  scheme := "http".toList
  authority := some { host := (urlHost e.host).toList, port := (toString e.port).toList }
  path := path.toList

/-- The characters that set a host apart from the user information before it and from the path, the
query or the fragment behind it. -/
def isMark (c : Char) : Bool := c = '@' || Url.endsAuthority c

/-- A host that is read as one wherever it stands. -/
def HasPlainHost (e : Endpoint) : Prop := ∀ c ∈ e.host.toList, isMark c = false

instance (e : Endpoint) : Decidable e.HasPlainHost :=
  decidable_of_iff (e.host.toList.all (!isMark ·) = true) (by simp [HasPlainHost])

theorem isDigit_of_mem_toString (h : c ∈ (toString n).toList) : c.isDigit = true := by
  have hd : (toString n).toList = Nat.toDigits 10 n := by simp
  rw [hd] at h
  exact Nat.isDigit_of_mem_toDigits (by decide) (by decide) h

theorem isDigit_of_getLast? {cs : List Char} (h : c ∈ (cs ++ (toString n).toList).getLast?) :
    c.isDigit = true := by
  have hn : (toString n).toList ≠ [] := by simp
  rw [List.getLast?_append, List.getLast?_eq_some_getLast hn] at h
  obtain rfl := Option.some.inj h
  exact isDigit_of_mem_toString (List.getLast_mem hn)

theorem not_mem_port (hc : c.isDigit = false) : c ∉ (toString n).toList := by
  intro h
  rw [isDigit_of_mem_toString h] at hc
  cases hc

/-- What is checked of an endpoint before it is accepted. -/
structure Sound (e : Endpoint) : Prop where
  named : e.host ≠ ""
  balanced : isBalanced e.host.toList = true
  positive : 0 < e.port
  bounded : e.port < 65536

theorem sound_of_ofParts {given : String} {host port : List Char} (hh : host ≠ [])
    (h : ofParts given host port = .ok e) : e.Sound := by
  unfold ofParts at h
  split at h
  · cases h
  next hb =>
  split at h
  · cases h
  split at h
  · cases h
  next n _ =>
  split at h
  · next hn =>
    cases h
    refine ⟨?_, by simpa using hb, hn.1, hn.2⟩
    intro he
    exact hh (String.ofList_eq_empty_iff.mp he)
  · cases h

theorem sound_of_parse (h : parse given = .ok e) : e.Sound := by
  unfold parse at h
  split at h
  · cases h
  split at h
  · cases h
  split at h
  · cases h
  split at h
  · cases h
  next host port _ he =>
  exact sound_of_ofParts (fun hn => he (List.isEmpty_iff.mpr hn)) h

theorem toList_urlHost (host : String) :
    (urlHost host).toList =
      if ':' ∈ host.toList ∧ host.toList.head? ≠ some '[' then '[' :: (host.toList ++ [']'])
      else host.toList := by
  have hi : (host.toList.contains ':' && host.toList.head? != some '[') = true ↔
      ':' ∈ host.toList ∧ host.toList.head? ≠ some '[' := by simp
  unfold urlHost
  by_cases h : ':' ∈ host.toList ∧ host.toList.head? ≠ some '['
  · rw [if_pos (hi.mpr h), if_pos h]
    simp
  · rw [if_neg (mt hi.mp h), if_neg h]

theorem isDelimited_urlHost (h : isBalanced host.toList = true) :
    Authority.IsDelimited (urlHost host).toList := by
  rw [toList_urlHost]
  split
  · exact .inl ⟨rfl, List.getLast?_eq_some_iff.mpr ⟨'[' :: host.toList, rfl⟩⟩
  · next hn =>
    by_cases hb : host.toList.head? = some '['
    · exact .inl ⟨hb, (isBalanced_iff.mp h).mp hb⟩
    · exact .inr ⟨hb, fun hc => hn ⟨hc, hb⟩⟩

theorem isRelative_url (h : e.Sound) : (e.url path).isRelative = false := by
  have hh : (urlHost e.host).toList ≠ [] := by
    rw [toList_urlHost]
    split
    · exact List.cons_ne_nil _ _
    · exact mt String.toList_eq_nil_iff.mp h.named
  have hs : (e.url path).scheme.isEmpty = false := by
    change "http".toList.isEmpty = false
    decide
  have ha : (e.url path).host.isEmpty = false := by simpa [url, Url.host] using hh
  rw [Url.isRelative, hs, ha]
  rfl

def authority (e : Endpoint) : List Char :=
  (urlHost e.host).toList ++ ':' :: (toString e.port).toList

theorem toList_baseUrl_append (e : Endpoint) (path : String) :
    (e.baseUrl ++ path).toList = "http://".toList ++ e.authority ++ path.toList := by
  simp [baseUrl, authority]

theorem ordinary_of_isMark (h : isMark c = true) :
    c.isDigit = false ∧ c ≠ '[' ∧ c ≠ ']' ∧ c ≠ ':' := by
  have hm : c = '@' ∨ c = '/' ∨ c = '?' ∨ c = '#' := by
    simpa [isMark, Url.endsAuthority, or_assoc] using h
  rcases hm with rfl | rfl | rfl | rfl <;> decide

theorem mem_urlHost_iff (h : isMark c = true) : c ∈ (urlHost host).toList ↔ c ∈ host.toList := by
  obtain ⟨-, ho, hc, -⟩ := ordinary_of_isMark h
  rw [toList_urlHost]
  split <;> simp [ho, hc]

theorem mem_authority_iff (h : isMark c = true) :
    c ∈ e.authority ↔ c ∈ (urlHost e.host).toList := by
  obtain ⟨hd, -, -, hl⟩ := ordinary_of_isMark h
  have hp : c ∉ (toString e.port).toList := not_mem_port hd
  rw [authority, List.mem_append, List.mem_cons]
  tauto

theorem hasPlainHost_iff : e.HasPlainHost ↔ ∀ c ∈ e.authority, isMark c = false := by
  have hm : ∀ c, isMark c = true → (c ∈ e.authority ↔ c ∈ e.host.toList) := fun c ht =>
    (mem_authority_iff ht).trans (mem_urlHost_iff ht)
  simp only [HasPlainHost, ← Bool.not_eq_true]
  constructor
  · intro hp c hc ht
    exact hp c ((hm c ht).mp hc) ht
  · intro ha c hc ht
    exact ha c ((hm c ht).mpr hc) ht

/-- A URL that leads to an endpoint was made from an authority that it could be told from. -/
theorem not_endsAuthority_of_url_eq {cs : List Char} (h : Url.ofChars cs = e.url path) :
    ∀ c ∈ e.authority, Url.endsAuthority c = false := by
  intro c hc
  by_contra ht
  rw [Bool.not_eq_false] at ht
  have hm : isMark c = true := by rw [isMark, ht, Bool.or_true]
  have hh : c ∈ (Url.ofChars cs).host := by
    rw [h]
    exact (mem_authority_iff hm).mp hc
  rw [Url.not_endsAuthority_of_mem_host hh] at ht
  cases ht

theorem ofString_baseUrl_append_iff (h : e.Sound) (hs : path.toList.head? = some '/')
    (hq : '?' ∉ path.toList) (hf : '#' ∉ path.toList) :
    Url.ofString (e.baseUrl ++ path) = e.url path ↔ e.HasPlainHost := by
  rw [Url.ofString, toList_baseUrl_append, hasPlainHost_iff]
  constructor
  · intro hu
    have hn := not_endsAuthority_of_url_eq hu
    rw [Url.ofChars_http hn hs hq hf] at hu
    have ha : Authority.ofChars e.authority =
        { host := (urlHost e.host).toList, port := (toString e.port).toList } :=
      Option.some.inj (congrArg Url.authority hu)
    have hi : '@' ∉ e.authority :=
      Authority.userinfo_ofChars_eq_none_iff.mp (congrArg Authority.userinfo ha)
    intro c hc
    have hc' : c ≠ '@' := fun he => hi (he ▸ hc)
    rw [isMark, hn c hc, decide_eq_false hc', Bool.or_false]
  · intro hp
    have hn : ∀ c ∈ e.authority, Url.endsAuthority c = false := fun c hc =>
      (Bool.or_eq_false_iff.mp (hp c hc)).2
    have hi : '@' ∉ e.authority := fun hc => by
      have hm := hp '@' hc
      revert hm
      decide
    have hr : ']' ∉ (toString e.port).toList := not_mem_port (by decide)
    rw [Url.ofChars_http hn hs hq hf, authority,
      Authority.ofChars_append (isDelimited_urlHost h.balanced) hr hi, url]

example : (⟨"::1", 9001⟩ : Endpoint).HasPlainHost ∧ ¬ (⟨"u@h", 9001⟩ : Endpoint).HasPlainHost := by
  decide

end InvocationClient.Endpoint
