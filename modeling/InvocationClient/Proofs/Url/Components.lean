import InvocationClient.Url.Basic
import Mathlib.Data.List.TakeDrop

/-! # Components of composed URLs

A URL put together from an authority and a path comes apart into these again, unless the authority
holds one of the characters that set components apart. The end of a host can be told if it stands in
brackets or holds no colon.
-/

namespace InvocationClient

namespace Authority

variable {cs host port : List Char} {c : Char}

/-- A host whose end can be told, in front of a colon and a port. -/
def IsDelimited (host : List Char) : Prop :=
  (host.head? = some '[' ∧ host.getLast? = some ']') ∨ (host.head? ≠ some '[' ∧ ':' ∉ host)

theorem splitHost_append (h : IsDelimited host) (hp : ']' ∉ port) :
    splitHost (host ++ ':' :: port) = (host, ':' :: port) := by
  rcases h with ⟨hh, hl⟩ | ⟨hh, hc⟩
  · obtain ⟨inner, rfl⟩ := List.getLast?_eq_some_iff.mp hl
    have hn : ∀ c ∈ ':' :: port, decide (c = ']') = false :=
      Text.not_isSeparator_of_not_mem (by simp [hp])
    have hb : (inner ++ [']'] ++ ':' :: port).head? = some '[' := by
      rw [List.head?_append, hh, Option.some_or]
    rw [splitHost, if_pos hb, List.append_assoc, List.singleton_append,
      Text.splitLast?_append hn (by decide)]
  · have hb : (host ++ ':' :: port).head? ≠ some '[' := by
      rw [List.head?_append]
      cases host with
      | nil => simp
      | cons c cs => exact hh
    have hn : ∀ c ∈ host, decide (c ≠ ':') = true := fun c hm =>
      decide_eq_true fun he => hc (he ▸ hm)
    have hs : ∀ c, (':' :: port).head? = some c → decide (c ≠ ':') = false := by
      rintro c ⟨⟩
      decide
    rw [splitHost, if_neg hb]
    simp only [List.span_eq_takeWhile_dropWhile]
    rw [Text.takeWhile_append_stop hn hs, Text.dropWhile_append_stop hn hs]

theorem splitHost_subset (cs : List Char) : (splitHost cs).1 ⊆ cs := by
  rw [splitHost]
  split
  · next host behind h =>
    split at h
    · obtain ⟨c, hc, rfl⟩ := Text.eq_append_of_splitLast? h
      obtain rfl := of_decide_eq_true hc
      exact List.append_subset.mpr ⟨List.subset_append_left .., by simp⟩
    · cases h
  · rw [List.span_eq_takeWhile_dropWhile]
    exact (List.takeWhile_prefix _).subset

theorem host_ofChars_subset (cs : List Char) : (ofChars cs).host ⊆ cs := by
  unfold ofChars
  split
  next userinfo site hs =>
  have hc : site ⊆ cs := by
    split at hs
    · next h =>
      cases hs
      obtain ⟨c, -, rfl⟩ := Text.eq_append_of_splitLast? h
      exact List.subset_append_of_subset_right _ (List.subset_cons_self ..)
    · cases hs
      exact List.Subset.refl _
  exact fun c hm => hc (splitHost_subset site hm)

theorem userinfo_ofChars_eq_none_iff : (ofChars cs).userinfo = none ↔ '@' ∉ cs := by
  constructor
  · intro h hm
    cases hs : Text.splitLast? (· = '@') cs with
    | none =>
      have hn := Text.not_isSeparator_of_splitLast? hs '@' hm
      revert hn
      decide
    | some parts =>
      rw [ofChars, hs] at h
      cases h
  · intro h
    rw [ofChars, Text.splitLast?_eq_none (Text.not_isSeparator_of_not_mem h)]

theorem ofChars_append (h : IsDelimited host) (hp : ']' ∉ port) (hu : '@' ∉ host ++ ':' :: port) :
    ofChars (host ++ ':' :: port) = { host, port } := by
  rw [ofChars, Text.splitLast?_eq_none (Text.not_isSeparator_of_not_mem hu)]
  simp [splitHost_append h hp]

end Authority

namespace Url

variable {cs authority path : List Char} {c : Char}

def endsAuthority (c : Char) : Bool := c = '/' || c = '?' || c = '#'

theorem splitAuthority_slashes (cs : List Char) :
    splitAuthority ('/' :: '/' :: cs) =
      (some (.ofChars (cs.takeWhile (!endsAuthority ·))), cs.dropWhile (!endsAuthority ·)) := by
  have hp : (fun c => c ≠ '/' && c ≠ '?' && c ≠ '#') = (!endsAuthority ·) := by
    funext c
    simp [endsAuthority]
  rw [splitAuthority, hp, List.span_eq_takeWhile_dropWhile]

theorem splitAuthority_append (ha : ∀ c ∈ authority, endsAuthority c = false)
    (hs : path.head? = some '/') :
    splitAuthority ('/' :: '/' :: (authority ++ path)) = (some (.ofChars authority), path) := by
  have hn : ∀ c ∈ authority, (!endsAuthority c) = true := fun c hc => by rw [ha c hc]; rfl
  have hp : ∀ c, path.head? = some c → (!endsAuthority c) = false := by
    intro c hc
    rw [hs] at hc
    cases hc
    decide
  rw [splitAuthority_slashes, Text.takeWhile_append_stop hn hp, Text.dropWhile_append_stop hn hp]

theorem exists_takeWhile_of_splitAuthority {site : Authority} {rest : List Char}
    (h : splitAuthority cs = (some site, rest)) :
    ∃ text : List Char, site = .ofChars (text.takeWhile (!endsAuthority ·)) := by
  unfold splitAuthority at h
  split at h
  · next text =>
    rw [← splitAuthority, splitAuthority_slashes] at h
    cases h
    exact ⟨text, rfl⟩
  · cases h

theorem not_endsAuthority_of_mem_host (h : c ∈ (ofChars cs).host) : endsAuthority c = false := by
  have ha : (ofChars cs).authority = (splitAuthority (splitScheme cs).2).1 := rfl
  rw [host, ha] at h
  rcases hs : splitAuthority (splitScheme cs).2 with ⟨_ | site, rest⟩
  · rw [hs] at h
    cases h
  · obtain ⟨text, rfl⟩ := exists_takeWhile_of_splitAuthority hs
    rw [hs] at h
    have hm := List.all_eq_true.mp List.all_takeWhile c (Authority.host_ofChars_subset _ h)
    simpa using hm

theorem splitFrom_of_not_mem {mark : Char} (h : mark ∉ cs) : splitFrom mark cs = (cs, none) := by
  rw [splitFrom, Text.splitFirst?_eq_none (Text.not_isSeparator_of_not_mem h)]

theorem splitScheme_http (cs : List Char) :
    splitScheme ("http:".toList ++ cs) = ("http".toList, cs) := by
  have hs : Text.splitFirst? (· = ':') ("http:".toList ++ cs) = some ("http".toList, cs) := rfl
  rw [splitScheme, hs]
  rfl

/-- A path without a query and a fragment ends an authority and comes back as it is. -/
theorem ofChars_http (ha : ∀ c ∈ authority, endsAuthority c = false) (hs : path.head? = some '/')
    (hq : '?' ∉ path) (hf : '#' ∉ path) :
    ofChars ("http://".toList ++ authority ++ path) =
      { scheme := "http".toList, authority := some (.ofChars authority), path } := by
  have hc : "http://".toList ++ authority ++ path =
      "http:".toList ++ '/' :: '/' :: (authority ++ path) := by simp
  rw [ofChars, hc, splitScheme_http]
  simp only [splitAuthority_append ha hs, splitFrom_of_not_mem hf, splitFrom_of_not_mem hq]

end Url

end InvocationClient
