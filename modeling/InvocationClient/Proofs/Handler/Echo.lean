import InvocationClient.Handler
import InvocationClient.Proofs.Json.Documents

/-! # The echo of an event

The echoing handler answers with a document from which the event and the time that is left can be
read again. This holds of every exact event, and so of all that a content in UTF-8 denotes.
-/

namespace InvocationClient.Handler

open Json (Denotes Exact Faithful Sound)
open Text

variable {limit : Nat} {seconds : Float} {i : Invocation} {payload content : ByteArray}
  {event : Json} {remaining : Int} {bytes : List UInt8}

/-- The value that bytes carry: an empty object if there are none, or else what they denote in UTF-8,
with a byte order mark or without one. -/
inductive Carries : List UInt8 → Json → Prop where
  | nothing : Carries [] (.object [])
  | unmarked {cs : List Char} {v : Json} : Denotes cs v →
      Carries (cs.flatMap String.utf8EncodeChar) v
  | marked {cs : List Char} {v : Json} : Denotes cs v →
      Carries (0xef :: 0xbb :: 0xbf :: cs.flatMap String.utf8EncodeChar) v

theorem Carries.exact {v : Json} (h : Carries bytes v) : Exact v := by
  cases h with
  | nothing => exact .object (List.forall_mem_nil _) (List.forall_mem_nil _)
  | unmarked hd => exact hd.exact
  | marked hd => exact hd.exact

theorem event_cases (h : Handler.event limit content = .ok event) :
    content.data.toList = [] ∧ event = .object [] ∨
      content.data.toList ≠ [] ∧ Json.readBytes limit content.data.toList = .ok event := by
  have hs : content.size = 0 ↔ content.data.toList = [] := by
    rw [← List.length_eq_zero_iff]
    rfl
  rw [Handler.event] at h
  split at h
  · next he =>
    cases h
    exact .inl ⟨hs.mp he, rfl⟩
  · next hn =>
    exact .inr ⟨fun he => hn (hs.mpr he), Json.eq_ok_of_mapError h⟩

theorem Carries.eq_of_event {v : Json} (h : Carries content.data.toList v)
    (hr : Handler.event limit content = .ok event) : event = v := by
  have hc := event_cases hr
  generalize content.data.toList = bytes at h hc
  rcases hc with ⟨rfl, rfl⟩ | ⟨hne, hr⟩
  · generalize hb : [] = bytes at h
    cases h with
    | nothing => rfl
    | unmarked hd => exact absurd hb.symm hd.flatMap_ne_nil
    | marked _ => cases hb
  · cases h with
    | nothing => exact absurd rfl hne
    | unmarked hd => exact hd.eq_of_readBytes hr
    | marked hd => exact hd.eq_of_readBytes_marked hr

theorem sound_of_event (h : Handler.event limit content = .ok event) : Sound event := by
  rcases event_cases h with ⟨-, rfl⟩ | ⟨-, hr⟩
  · exact .object (List.forall_mem_nil _) List.nodup_nil
  · exact Json.sound_of_readBytes hr

theorem echo_eq_ok_iff : echo limit seconds i = .ok payload ↔
    ∃ event remaining, Handler.event limit i.content = .ok event ∧
      i.remainingAt seconds = .ok remaining ∧ (echoDocument event remaining).depth ≤ limit ∧
      Number.isWritable remaining = true ∧
      (echoDocument event remaining).render.toUTF8 = payload := by
  rw [echo]
  constructor
  · intro h
    cases he : Handler.event limit i.content with
    | error f =>
      rw [he] at h
      cases h
    | ok event =>
      cases hr : i.remainingAt seconds with
      | error f =>
        rw [he, hr] at h
        cases h
      | ok remaining =>
        rw [he, hr] at h
        change (if limit < (echoDocument event remaining).depth then Except.error _
          else if Number.isWritable remaining = true then Except.ok _ else Except.error _) = _ at h
        split at h
        · cases h
        next hd =>
        split at h
        · next hw =>
          cases h
          exact ⟨event, remaining, rfl, rfl, Nat.not_lt.mp hd, hw, rfl⟩
        · cases h
  · rintro ⟨event, remaining, he, hr, hd, hw, rfl⟩
    rw [he, hr]
    change (if limit < (echoDocument event remaining).depth then Except.error _
      else if Number.isWritable remaining = true then Except.ok _ else Except.error _) = _
    rw [if_neg (Nat.not_lt.mpr hd), if_pos hw]

theorem faithful_echoDocument (he : Faithful event) (hw : Number.isWritable remaining = true) :
    Faithful (echoDocument event remaining) := by
  have hn : ["echo", "remaining_ms"].Nodup := by decide
  exact Json.faithful_record (List.forall_mem_cons.mpr
    ⟨he, List.forall_mem_singleton.mpr (.integer hw)⟩) hn

section Samples

open Json (EscapedUnit Member Quotes)

/-- The last member has the name of the first, which an escape in it hides. -/
def sampleMembers : List Member :=
  [⟨['"', 'k', '"'], ['k'], ['[', '-', '1', ']'], .array [.integer (-1)]⟩,
    ⟨[' ', '"', 'é', '"', ' '], ['é'],
      ['"', '\\', 'u', 'D', '8', '3', 'd', '\\', 'u', 'd', 'e', '0', '0', '"'],
      .string (Json.points ['😀'])⟩,
    ⟨['"', '\\', 'u', '0', '0', '6', 'b', '"'], ['k'], [' ', '2'], .integer 2⟩]

def sample : Invocation where
  id := "7"
  functionArn := "f"
  content := ⟨(('\x7b' :: (Json.commaSeparated (sampleMembers.map Member.text) ++
    ['\x7d'])).flatMap String.utf8EncodeChar).toArray⟩

theorem names_sampleMembers : ∀ m ∈ sampleMembers, Json.Names m.nameText m.name := by
  have hn : Json.Spaces [] := List.forall_mem_nil _
  have hs : Json.Spaces [' '] := List.forall_mem_singleton.mpr (by decide)
  have hi : ∀ c, c ≠ '"' → c ≠ '\\' → 0x20 ≤ c.toNat → Quotes ['"', c, '"'] [c] :=
    fun c hq hb hc => @Quotes.quoted [([c], c)]
      (List.forall_mem_singleton.mpr (.itself hq hb hc))
  have hu : EscapedUnit ['\\', 'u', '0', '0', '6', 'b'] 0x6b :=
    .digits (.lower (n := 0) (by decide)) (.lower (n := 0) (by decide))
      (.lower (n := 6) (by decide)) (.lower (n := 11) (by decide))
  have hk : Quotes ['"', '\\', 'u', '0', '0', '6', 'b', '"'] ['k'] :=
    @Quotes.quoted [(_, 'k')] (List.forall_mem_singleton.mpr (.unit hu))
  simp only [sampleMembers, List.forall_mem_cons]
  exact ⟨.padded hn (hi 'k' (by decide) (by decide) (by decide)) hn,
    .padded hs (hi 'é' (by decide) (by decide) (by decide)) hs, .padded hn hk hn,
    List.forall_mem_nil _⟩

theorem denotes_sampleMembers : ∀ m ∈ sampleMembers, Denotes m.valueText m.value := by
  have hs : Json.Spaces [' '] := List.forall_mem_singleton.mpr (by decide)
  have hd : ∀ d : Char, d.isDigit = true → d ≠ '0' → Json.Whole [d] := fun d hd hz =>
    .digits hd hz (List.forall_mem_nil _)
  have hh : EscapedUnit ['\\', 'u', 'D', '8', '3', 'd'] 0xd83d :=
    .digits (.upper (n := 13) (by decide)) (.lower (n := 8) (by decide))
      (.lower (n := 3) (by decide)) (.lower (n := 13) (by decide))
  have hl : EscapedUnit ['\\', 'u', 'd', 'e', '0', '0'] 0xde00 :=
    .digits (.lower (n := 13) (by decide)) (.lower (n := 14) (by decide))
      (.lower (n := 0) (by decide)) (.lower (n := 0) (by decide))
  simp only [sampleMembers, List.forall_mem_cons]
  refine ⟨?_, ?_, ?_, List.forall_mem_nil _⟩
  · exact @Denotes.array [(['-', '1'], .integer (-1))] (List.cons_ne_nil _ _)
      (List.forall_mem_singleton.mpr (.negative (hd '1' (by decide) (by decide))))
  · exact .string (@Quotes.quoted [(_, '😀')] (List.forall_mem_singleton.mpr
      (.pair hh hl (by decide) (by decide) (by decide))))
  · exact .padded hs (.natural (hd '2' (by decide) (by decide))) (List.forall_mem_nil _)

end Samples

end InvocationClient.Handler
