import InvocationClient.Client.Operations
import InvocationClient.Proofs.Text.Percent
import InvocationClient.Proofs.Url.DotSegments

/-! # Paths of invocations

The path of an invocation holds its name as one segment, percent-encoded. Encoding leaves dots as
they are, so that the names `.` and `..` come out as dot segments, which are lost when the path is
normalised before it goes out; the path of any other name is kept.
-/

namespace InvocationClient

namespace Path

open Text.Percent

variable {id action path : String} {c : Char}

def segments (id action : String) : List (List Char) :=
  ["2018-06-01".toList, "runtime".toList, "invocation".toList, (encode id).toList, action.toList]

theorem toList_ofInvocation (id action : String) :
    (ofInvocation id action).toList = Url.ofSegments (segments id action) := by
  have hp : "/2018-06-01/runtime/invocation/".toList =
      Url.ofSegments ["2018-06-01".toList, "runtime".toList, "invocation".toList] ++ ['/'] := by
    decide +kernel
  have hs : "/".toList = ['/'] := by decide
  unfold ofInvocation segments
  generalize encode id = name
  rw [String.toList_append, String.toList_append, String.toList_append, hp, hs]
  simp [Url.ofSegments]

theorem forall_segments_iff {p : List Char → Prop} (hv : p "2018-06-01".toList)
    (hr : p "runtime".toList) (hi : p "invocation".toList) :
    (∀ segment ∈ segments id action, p segment) ↔ p (encode id).toList ∧ p action.toList := by
  simp only [segments, List.forall_mem_cons]
  constructor
  · rintro ⟨-, -, -, hn, ha, -⟩
    exact ⟨hn, ha⟩
  · rintro ⟨hn, ha⟩
    exact ⟨hv, hr, hi, hn, ha, by simp⟩

theorem slashless_segments (id : String) (ha : '/' ∉ action.toList) :
    ∀ segment ∈ segments id action, '/' ∉ segment :=
  (forall_segments_iff (by decide) (by decide) (by decide)).mpr
    ⟨not_mem_encode (by decide), ha⟩

/-- The name of an invocation and what is done about it can be told from the path. -/
theorem ofInvocation_inj {id' action' : String} (ha : '/' ∉ action.toList)
    (ha' : '/' ∉ action'.toList) :
    ofInvocation id action = ofInvocation id' action' ↔ id = id' ∧ action = action' := by
  rw [← String.toList_inj, toList_ofInvocation, toList_ofInvocation,
    Url.ofSegments_inj (slashless_segments id ha) (slashless_segments id' ha')]
  simp [segments, String.toList_inj, encode_inj]

theorem count_ofInvocation (id : String) (ha : '/' ∉ action.toList) :
    (ofInvocation id action).toList.count '/' = 5 := by
  rw [toList_ofInvocation, Url.count_ofSegments (slashless_segments id ha)]
  rfl

/-- A path that a URL keeps apart from its other components. -/
structure IsPlain (path : String) : Prop where
  rooted : path.toList.head? = some '/'
  noQuery : '?' ∉ path.toList
  noFragment : '#' ∉ path.toList

/-- Whatever the name is, it brings no other character into the path. -/
theorem isEncoded_of_mem_ofInvocation (ha : action.toList.all isEncoded = true)
    (h : c ∈ (ofInvocation id action).toList) : c = '/' ∨ isEncoded c = true := by
  have hn : (encode id).toList.all isEncoded = true :=
    List.all_eq_true.mpr fun c hc => isEncoded_of_mem_encode hc
  have hs : ∀ segment ∈ segments id action, segment.all isEncoded = true :=
    (forall_segments_iff (by decide) (by decide) (by decide)).mpr ⟨hn, ha⟩
  rw [toList_ofInvocation, Url.ofSegments] at h
  obtain ⟨segment, hm, hc⟩ := List.mem_flatMap.mp h
  rcases List.mem_cons.mp hc with rfl | hc
  · exact .inl rfl
  · exact .inr (List.all_eq_true.mp (hs segment hm) c hc)

theorem isPlain_ofInvocation (id : String) (ha : action.toList.all isEncoded = true) :
    IsPlain (ofInvocation id action) where
  rooted := by
    rw [toList_ofInvocation]
    rfl
  noQuery h := by
    have hc := isEncoded_of_mem_ofInvocation ha h
    revert hc
    decide
  noFragment h := by
    have hc := isEncoded_of_mem_ofInvocation ha h
    revert hc
    decide

def IsKept (path : String) : Prop := Url.removeDotSegments path.toList = path.toList

theorem isDotSegment_encode_iff :
    Url.IsDotSegment (encode id).toList ↔ id = "." ∨ id = ".." := by
  have hd : (encode ".").toList = ['.'] := by decide +kernel
  have hdd : (encode "..").toList = ['.', '.'] := by decide +kernel
  rw [Url.IsDotSegment, ← hdd, ← hd, String.toList_inj, String.toList_inj, encode_inj, encode_inj]

/-- The path of an invocation is kept exactly if its name is not a dot segment. -/
theorem isKept_ofInvocation_iff (hs : '/' ∉ action.toList)
    (hd : ¬ Url.IsDotSegment action.toList) :
    IsKept (ofInvocation id action) ↔ id ≠ "." ∧ id ≠ ".." := by
  rw [IsKept, toList_ofInvocation, Url.removeDotSegments_eq_self_iff (slashless_segments id hs),
    forall_segments_iff (by decide) (by decide) (by decide), isDotSegment_encode_iff, not_or]
  exact and_iff_left hd

end Path

end InvocationClient
