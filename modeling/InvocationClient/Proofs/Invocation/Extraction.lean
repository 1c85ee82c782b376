import InvocationClient.Proofs.Invocation.Deadline
import InvocationClient.Proofs.Invocation.Metadata

/-! # What a response describes

The reference for the scan over the header fields: each field of the metadata has the value of the
last header field with its name in lower case. What is read off these values is what the scan comes
to, so header fields with other names and the order of different names make no difference.
-/

namespace InvocationClient.Metadata

variable {fields fields' : Fields} {body : Option ByteArray} {f : Field} {h : String × String}

def isNamed (f : Field) (h : String × String) : Bool := Text.lower h.1 = Text.lower f.header

def namedValue? (f : Field) (fields : Fields) : Option String :=
  ((fields.filter (isNamed f)).getLast?).map (·.2)

/-- The invocation that a response describes, or what is missed in it first. -/
def reading (fields : Fields) (body : Option ByteArray) : Except Failure Invocation :=
  match namedValue? .requestId fields, namedValue? .functionArn fields with
  | none, _ => .error (missing .requestId .absent)
  | some id, none => .error (missing .functionArn (.text id))
  | some id, some arn =>
    (Deadline.parse (namedValue? .deadline fields)).map fun deadline =>
      { id
        functionArn := arn
        deadline
        traceId := namedValue? .traceId fields
        clientContext := namedValue? .clientContext fields
        cognitoIdentity := namedValue? .cognitoIdentity fields
        content := body.getD .empty }

theorem isNamed_iff : isNamed f h = true ↔ Field.ofName? h.1 = some f := by
  rw [isNamed, decide_eq_true_eq, ofName?_eq_some_iff]

theorem lastValue?_eq_namedValue? (f : Field) (fields : Fields) :
    lastValue? f fields = namedValue? f fields := by
  have hn : (fun h : String × String => decide (Field.ofName? h.1 = some f)) = isNamed f := by
    funext h
    rw [Bool.eq_iff_iff, decide_eq_true_eq, isNamed_iff]
  rw [lastValue?, namedValue?, hn]

theorem namedValue?_eq_none_iff :
    namedValue? f fields = none ↔ ∀ h ∈ fields, isNamed f h = false := by
  simp [namedValue?]

theorem extract_eq_reading (fields : Fields) (body : Option ByteArray) :
    extract fields body = reading fields body := by
  unfold reading
  cases hi : namedValue? .requestId fields with
  | none => exact extract_of_id_missing (by rw [lastValue?_eq_namedValue?, hi])
  | some id =>
    cases ha : namedValue? .functionArn fields with
    | none =>
      refine extract_of_arn_missing ?_ ?_
      · rw [lastValue?_eq_namedValue?, hi]
      · rw [lastValue?_eq_namedValue?, ha]
    | some arn =>
      rw [← lastValue?_eq_namedValue?] at hi ha
      rw [extract_of_required hi ha]
      simp only [← lastValue?_eq_namedValue?]
      rfl

theorem extract_congr_named (h : ∀ f, fields'.filter (isNamed f) = fields.filter (isNamed f))
    (body : Option ByteArray) : extract fields' body = extract fields body := by
  apply extract_congr
  intro f
  rw [lastValue?_eq_namedValue?, lastValue?_eq_namedValue?, namedValue?, namedValue?, h]

theorem missing_inj {g : Field} {context context' : Context}
    (h : missing f context = missing g context') : f = g ∧ context = context' := by
  simp only [missing, Failure.client.injEq, ClientError.mk.injEq,
    Problem.missingMetadata.injEq] at h
  obtain ⟨hf, hc⟩ := h
  exact ⟨lower_header_inj (congrArg Text.lower hf), hc⟩

/-- Reading a deadline is never what a field is missed by. -/
theorem parse_ne_missing (raw : Option String) (f : Field) (context : Context) :
    Deadline.parse raw ≠ .error (missing f context) := by
  intro h
  obtain ⟨text, negative, digits, -, -, -, hm⟩ := Deadline.parse_eq_error_iff.mp h
  cases hm

theorem extract_eq_id_missing_iff :
    extract fields body = .error (missing .requestId .absent) ↔
      namedValue? .requestId fields = none := by
  rw [extract_eq_error_iff, lastValue?_eq_namedValue?]
  constructor
  · rintro (⟨hi, -⟩ | ⟨id, -, -, hm⟩ | ⟨id, arn, -, -, hd⟩)
    · exact hi
    · cases (missing_inj hm).1
    · exact absurd hd (parse_ne_missing _ _ _)
  · intro hi
    exact .inl ⟨hi, rfl⟩

theorem extract_eq_arn_missing_iff {id : String} :
    extract fields body = .error (missing .functionArn (.text id)) ↔
      namedValue? .requestId fields = some id ∧ namedValue? .functionArn fields = none := by
  rw [extract_eq_error_iff, lastValue?_eq_namedValue?, lastValue?_eq_namedValue?]
  constructor
  · rintro (⟨-, hm⟩ | ⟨id', hi, ha, hm⟩ | ⟨id', arn, -, -, hd⟩)
    · cases (missing_inj hm).1
    · cases (missing_inj hm).2
      exact ⟨hi, ha⟩
    · exact absurd hd (parse_ne_missing _ _ _)
  · rintro ⟨hi, ha⟩
    exact .inr (.inl ⟨id, hi, ha, rfl⟩)

theorem extract_insert_unnamed (hn : ∀ f, isNamed f h = false) (before behind : Fields) :
    extract (before ++ h :: behind) body = extract (before ++ behind) body := by
  apply extract_congr_named
  intro f
  rw [List.filter_append, List.filter_append, List.filter_cons_of_neg (by simp [hn f])]

/-- Scanning the header fields of a response comes to the last value of each field by its name in
lower case, and the response describes what can be read off these values. A field is missed exactly
if no header field has its name, the identifier before the function and both before the deadline is
read. Header fields with other names may come and go, and different names may change places. -/
theorem extract_by_last_names (fields : Fields) (body : Option ByteArray) :
    (∀ f, (scan fields).get? f = namedValue? f fields) ∧
    extract fields body = reading fields body ∧
    (extract fields body = .error (missing .requestId .absent) ↔
      ∀ h ∈ fields, isNamed .requestId h = false) ∧
    (∀ id, extract fields body = .error (missing .functionArn (.text id)) ↔
      namedValue? .requestId fields = some id ∧ ∀ h ∈ fields, isNamed .functionArn h = false) ∧
    (∀ before h behind, fields = before ++ h :: behind → (∀ f, isNamed f h = false) →
      extract (before ++ behind) body = extract fields body) ∧
    ∀ fields', (∀ f, fields'.filter (isNamed f) = fields.filter (isNamed f)) →
      extract fields' body = extract fields body := by
  refine ⟨fun f => ?_, extract_eq_reading fields body, ?_, fun id => ?_, ?_, ?_⟩
  · rw [scan_get?, lastValue?_eq_namedValue?]
  · rw [extract_eq_id_missing_iff, namedValue?_eq_none_iff]
  · rw [extract_eq_arn_missing_iff, namedValue?_eq_none_iff]
  · rintro before h behind rfl hn
    exact (extract_insert_unnamed hn before behind).symm
  · intro fields' hf
    exact extract_congr_named hf body

section Samples

/-- Two names for one invocation, and a header field that describes none. -/
def twiceNamed : Fields :=
  [("LAMBDA-RUNTIME-AWS-REQUEST-ID", "6"), ("Date", "today"),
    ("lambda-runtime-invoked-function-arn", "f"), ("Lambda-Runtime-Aws-Request-Id", "7")]

/-- The same with the function in front. -/
def twiceNamedLater : Fields :=
  [("lambda-runtime-invoked-function-arn", "f"), ("LAMBDA-RUNTIME-AWS-REQUEST-ID", "6"),
    ("Lambda-Runtime-Aws-Request-Id", "7")]

theorem extract_by_last_names_repeated :
    (∀ f, isNamed f ("Date", "today") = false) ∧
      extract (twiceNamed.eraseIdx 1) none = extract twiceNamed none ∧
      (∀ f, twiceNamedLater.filter (isNamed f) = twiceNamed.filter (isNamed f)) ∧
      extract twiceNamedLater none = extract twiceNamed none ∧
      (scan twiceNamed).get? .requestId = some "7" := by
  have hd : ∀ f, isNamed f ("Date", "today") = false := by
    intro f
    cases f <;> decide +kernel
  have hf : ∀ f, twiceNamedLater.filter (isNamed f) = twiceNamed.filter (isNamed f) := by
    intro f
    cases f <;> decide +kernel
  obtain ⟨hg, -, -, -, hr, hc⟩ := extract_by_last_names twiceNamed none
  refine ⟨hd, hr [_] _ [_, _] rfl hd, hf, hc twiceNamedLater hf, ?_⟩
  rw [hg]
  decide +kernel

end Samples

end InvocationClient.Metadata
