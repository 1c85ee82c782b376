import InvocationClient.Proofs.Json.Documents
import InvocationClient.Proofs.Report.Repetition
import InvocationClient.Proofs.Transport.Headers

/-! # Error documents that are read back

The document that tells of a failure is in ASCII, and what it tells can be read from it: the text of
the failure, its kind and the entries of its trace. So failures that differ in one of these have
different documents. The entries are those of the runs that the trace falls into.
-/

namespace InvocationClient

open Json (Faithful)
open Text

namespace ErrorReport

variable {message kind message' kind' : String} {trace trace' : List Frame}

theorem faithful_document (message kind : String) (trace : List Frame) :
    Faithful (document message kind trace) := by
  have ht : Faithful (.array ((Trace.entries trace).map .text)) :=
    .array (List.forall_mem_map.mpr fun entry _ => Json.faithful_text entry)
  have hn : ["errorMessage", "errorType", "stackTrace"].Nodup := by decide
  refine Json.faithful_record ?_ hn
  exact List.forall_mem_cons.mpr ⟨Json.faithful_text message,
    List.forall_mem_cons.mpr ⟨Json.faithful_text kind, List.forall_mem_singleton.mpr ht⟩⟩

theorem itemsDepth_texts (texts : List String) : Json.itemsDepth (texts.map .text) = 0 := by
  induction texts with
  | nil => rfl
  | cons s ss ih =>
    rw [List.map_cons, Json.itemsDepth, ih]
    rfl

/-- The entries of the trace lie in an array, and that in an object. -/
theorem depth_document (message kind : String) (trace : List Frame) :
    (document message kind trace).depth = 2 := by
  change max 0 (max 0 (max (Json.itemsDepth ((Trace.entries trace).map .text) + 1) 0)) + 1 = 2
  rw [itemsDepth_texts]
  rfl

theorem document_inj : document message kind trace = document message' kind' trace' ↔
    message = message' ∧ kind = kind' ∧ Trace.entries trace = Trace.entries trace' := by
  have ht : Function.Injective Json.text := fun s t h =>
    codePoints_inj.mp (Json.string.inj h)
  simp only [document, Json.record, List.map_cons, List.map_nil, Json.object.injEq,
    List.cons.injEq, Prod.mk.injEq, Json.array.injEq, true_and, and_true, ht.eq_iff,
    List.map_inj_right ht]

section Payloads

variable (failure : Failure) (trace : List Frame) (requestId : Option String)

theorem isAscii_payload :
    Utf8.IsAscii (ofFailure failure trace requestId).payload.data.toList :=
  (faithful_document failure.message failure.kind trace).lt_of_mem_render

theorem readBytes_payload {limit : Nat} (hl : 2 ≤ limit) :
    Json.readBytes limit (ofFailure failure trace requestId).payload.data.toList =
      .ok (document failure.message failure.kind trace) :=
  Json.readBytes_render (faithful_document ..) (by rwa [depth_document])

theorem payload_inj_iff {failure' : Failure} {trace' : List Frame} {requestId' : Option String} :
    (ofFailure failure trace requestId).payload = (ofFailure failure' trace' requestId').payload ↔
      failure.message = failure'.message ∧ failure.kind = failure'.kind ∧
        Trace.entries trace = Trace.entries trace' := by
  rw [← document_inj]
  constructor
  · intro h
    have hd := readBytes_payload failure trace requestId (Nat.le_refl 2)
    rw [h, readBytes_payload failure' trace' requestId' (Nat.le_refl 2)] at hd
    exact (Except.ok.inj hd).symm
  · intro h
    rw [ofFailure, ofFailure, h]

end Payloads

/-- What a payload tells of a failure: it is in ASCII and reads, given two levels, as an object of
three members in their order. -/
structure Tells (payload : ByteArray) (failure : Failure) (entries : List String) : Prop where
  ascii : ∀ b ∈ payload.data.toList, b < 0x80
  reads : ∀ limit, 2 ≤ limit → Json.readBytes limit payload.data.toList = .ok (.object [
    (codePoints "errorMessage", .string (codePoints failure.message)),
    (codePoints "errorType", .string (codePoints failure.kind)),
    (codePoints "stackTrace", .array (entries.map fun entry => .string (codePoints entry)))])

theorem tells_payload (failure : Failure) (trace : List Frame) (requestId : Option String) :
    Tells (ofFailure failure trace requestId).payload failure (Trace.entries trace) where
  ascii := isAscii_payload failure trace requestId
  reads limit hl := by
    rw [readBytes_payload failure trace requestId hl, document, Json.record]
    simp only [List.map_cons, List.map_nil]
    rfl

/-- The payload of the report on any failure tells its text, its kind and the entries of its trace,
with all their code points. The report tells the kind once more, and the name it was given, but no
cause. Two reports have one payload only if all that can be read from them is the same. -/
theorem ofFailure_readable (failure : Failure) (trace : List Frame) (requestId : Option String) :
    let report := ofFailure failure trace requestId
    ∃ entries, Trace.Lists trace entries ∧ Tells report.payload failure entries ∧
      report.errorType = some failure.kind ∧ report.requestId = requestId ∧
      report.errorCause = none ∧
      ∀ failure' trace' requestId',
        report.payload = (ofFailure failure' trace' requestId').payload ↔
          failure.message = failure'.message ∧ failure.kind = failure'.kind ∧
            Trace.Lists trace' entries := by
  refine ⟨Trace.entries trace, Trace.lists_iff.mpr rfl, tells_payload failure trace requestId, rfl,
    rfl, rfl, fun failure' trace' requestId' => ?_⟩
  rw [Trace.lists_iff]
  exact payload_inj_iff failure trace requestId

/-- A text of quotes, backslashes, control characters and a character beyond the first plane. -/
def tangled : Failure := .foreign ⟨"É\"", "\\\"\n\x00\x7f😀\\u0041"⟩

/-- A name that ends in a new line, a sum that is a part of its line, and a call that goes on below. -/
def tangledTrace : List Frame := [
  { file := "a.py", line := 1, function := "<\n>\n" },
  { file := "a.py", line := 2, function := "f", source := some "    return \"漢\" + g(x)\n"
    lastLine := some 2, columns := some (11, 23), operator := some (4, 5) },
  { file := "b.py", line := 3, function := "g", source := some "\tx = h(1,\n"
    lastLine := some 4, columns := some (5, 3) }]

def tangledEntries : List String := [
  "  File \"a.py\", line 1, in <\n>",
  "  File \"a.py\", line 2, in f\n    return \"漢\" + g(x)\n           ~~~~~^~~~~~",
  "  File \"b.py\", line 3, in g\n    x = h(1,\n        ^^^^"]

theorem ofFailure_readable_tangled :
    Tells (ofFailure tangled tangledTrace (some "7")).payload tangled tangledEntries := by
  obtain ⟨entries, hl, ht, -⟩ := ofFailure_readable tangled tangledTrace (some "7")
  have he : tangledEntries = Trace.entries tangledTrace := by decide +kernel
  rw [he, ← Trace.lists_iff.mp hl]
  exact ht

end ErrorReport

namespace Trace

/-- The trace in an error document is the one way to cut the frames into runs, each shown as its
first three frames and, if it has more, their number. Together the entries stand for as many frames
as there are, and none of them ends in a new line. Where two frames side by side differ in place,
the trace falls into what its two parts are shown as. -/
theorem stackTrace_by_runs (frames : List Frame) :
    ∃ runs entries, (∀ runs', AreRuns frames runs' ↔ runs' = runs) ∧
      List.Forall₂ Item.Shows (runs.flatMap items) entries ∧
      (∀ failure requestId,
        ErrorReport.Tells (ErrorReport.ofFailure failure frames requestId).payload failure entries) ∧
      ((runs.flatMap items).map Item.size).sum = frames.length ∧
      (∀ entry ∈ entries, entry.toList.getLast? ≠ some '\n') ∧
      ∀ before behind es es', frames = before ++ behind →
        (∀ f ∈ before.getLast?, ∀ g ∈ behind.head?, f.place ≠ g.place) →
        Lists before es → Lists behind es' → entries = es ++ es' := by
  have hr : AreRuns frames (frames.splitBy Frame.samePlace) := areRuns_iff.mpr rfl
  refine ⟨frames.splitBy Frame.samePlace, Trace.entries frames,
    fun runs' => areRuns_iff.trans eq_comm, forall₂_shows_iff.mpr (entries_of_areRuns hr),
    fun failure requestId => ErrorReport.tells_payload failure frames requestId,
    sum_size_of_areRuns hr, ?_, ?_⟩
  · intro entry he
    rw [entries_of_areRuns hr] at he
    obtain ⟨item, -, rfl⟩ := List.mem_map.mp he
    exact (Item.shows_iff.mpr rfl).getLast?_ne
  · rintro before behind es es' rfl hd hb ha
    rw [entries_append hd, lists_iff.mp hb, lists_iff.mp ha]

/-- Five calls from a part of one line, one from another line, and one from the first again. -/
def recursion : List Frame :=
  let call : Frame := { file := "a.py", line := 3, function := "f", source := some "  return f() + 1\n"
                        lastLine := some 3, columns := some (9, 12) }
  List.replicate 5 call ++ [{ call with line := 7, function := "g", source := none }, call]

def callEntry : String := "  File \"a.py\", line 3, in f\n    return f() + 1\n           ^^^"

theorem stackTrace_by_runs_recursion :
    ErrorReport.Tells (ErrorReport.ofFailure .requestIdRequired recursion none).payload
      .requestIdRequired [callEntry, callEntry, callEntry, "  [Previous line repeated 2 more times]",
        "  File \"a.py\", line 7, in g", callEntry] := by
  obtain ⟨runs, entries, hu, hs, ht, -⟩ := stackTrace_by_runs recursion
  have hr : AreRuns recursion [recursion.take 5, [recursion[5]], [recursion[6]]] :=
    areRuns_iff.mpr (by decide)
  obtain rfl := (hu _).mp hr
  have he : [callEntry, callEntry, callEntry, "  [Previous line repeated 2 more times]",
      "  File \"a.py\", line 7, in g", callEntry] =
      ([recursion.take 5, [recursion[5]], [recursion[6]]].flatMap items).map Item.text := by
    decide +kernel
  rw [he, ← forall₂_shows_iff.mp hs]
  exact ht .requestIdRequired none

end Trace

end InvocationClient
