import InvocationClient.Invocation.Metadata

/-! # Last values

Scanning header fields comes to the last value of each field of the metadata. An invocation is
described by these alone: it is there if the two required fields are, and the text of the deadline
can be read.
-/

namespace InvocationClient.Metadata

variable {fields : Fields} {body : Option ByteArray} {f : Field}

theorem ofName?_congr {name name' : String} (h : Text.lower name = Text.lower name') :
    Field.ofName? name = Field.ofName? name' := by
  simp only [Field.ofName?, h]

theorem lower_header_inj {g : Field} (h : Text.lower f.header = Text.lower g.header) : f = g := by
  have hi : ∀ f ∈ Field.all, ∀ g ∈ Field.all,
      Text.lower f.header = Text.lower g.header → f = g := by decide +kernel
  exact hi f (Field.mem_all f) g (Field.mem_all g) h

theorem ofName?_eq_some_iff {name : String} :
    Field.ofName? name = some f ↔ Text.lower name = Text.lower f.header := by
  constructor
  · intro h
    have hf := List.find?_some h
    simpa [eq_comm] using hf
  · intro h
    rw [ofName?_congr h]
    cases f <;> decide +kernel

theorem ofName?_header (f : Field) : Field.ofName? f.header = some f :=
  ofName?_eq_some_iff.mpr rfl

/-- The value of the last header field that stands for `f`. -/
def lastValue? (f : Field) (fields : Fields) : Option String :=
  ((fields.filter fun h => Field.ofName? h.1 = some f).getLast?).map (·.2)

@[simp] theorem lastValue?_nil (f : Field) : lastValue? f [] = none := rfl

theorem lastValue?_cons (f : Field) (h : String × String) (fields : Fields) :
    lastValue? f (h :: fields) =
      (lastValue? f fields).or (if Field.ofName? h.1 = some f then some h.2 else none) := by
  unfold lastValue?
  by_cases hf : Field.ofName? h.1 = some f
  · rw [List.filter_cons_of_pos (by simpa using hf), List.getLast?_cons, if_pos hf]
    cases (fields.filter fun h => Field.ofName? h.1 = some f).getLast? <;> rfl
  · rw [List.filter_cons_of_neg (by simpa using hf), if_neg hf, Option.or_none]

theorem lastValue?_header (f g : Field) (value : String) (fields : Fields) :
    lastValue? f ((g.header, value) :: fields) =
      (lastValue? f fields).or (if g = f then some value else none) := by
  simp only [lastValue?_cons, ofName?_header, Option.some.injEq]

theorem get?_take (found : Found) (h : String × String) (f : Field) :
    (found.take h).get? f = if Field.ofName? h.1 = some f then some h.2 else found.get? f := by
  unfold Found.take
  cases hn : Field.ofName? h.1 with
  | none => simp
  | some g => simp only [Found.get?_set, Option.some.injEq]

theorem get?_foldl_take (found : Found) (fields : Fields) (f : Field) :
    (fields.foldl Found.take found).get? f = (lastValue? f fields).or (found.get? f) := by
  induction fields generalizing found with
  | nil => rfl
  | cons h fields ih =>
    rw [List.foldl_cons, ih, get?_take, lastValue?_cons, Option.or_assoc]
    split <;> rfl

theorem scan_get? (fields : Fields) (f : Field) : (scan fields).get? f = lastValue? f fields := by
  rw [scan, get?_foldl_take]
  cases f <;> exact Option.or_none

theorem scan_congr {fields' : Fields} (h : ∀ f, lastValue? f fields = lastValue? f fields') :
    scan fields = scan fields' := by
  have hg : ∀ f, (scan fields).get? f = (scan fields').get? f := fun f => by
    rw [scan_get?, scan_get?, h]
  generalize scan fields = found, scan fields' = found' at hg
  obtain ⟨requestId, functionArn, deadline, traceId, clientContext, cognitoIdentity⟩ := found
  obtain ⟨requestId', functionArn', deadline', traceId', clientContext', cognitoIdentity'⟩ := found'
  obtain rfl : requestId = requestId' := hg .requestId
  obtain rfl : functionArn = functionArn' := hg .functionArn
  obtain rfl : deadline = deadline' := hg .deadline
  obtain rfl : traceId = traceId' := hg .traceId
  obtain rfl : clientContext = clientContext' := hg .clientContext
  obtain rfl : cognitoIdentity = cognitoIdentity' := hg .cognitoIdentity
  rfl

theorem extract_congr {fields' : Fields} (h : ∀ f, lastValue? f fields = lastValue? f fields')
    (body : Option ByteArray) : extract fields body = extract fields' body := by
  simp only [extract, scan_congr h]

def describe (fields : Fields) (body : Option ByteArray) (id arn : String) (deadline : Int) :
    Invocation where
  id := id
  functionArn := arn
  deadline := deadline
  traceId := lastValue? .traceId fields
  clientContext := lastValue? .clientContext fields
  cognitoIdentity := lastValue? .cognitoIdentity fields
  content := body.getD .empty

theorem extract_of_id_missing (h : lastValue? .requestId fields = none) :
    extract fields body = .error (missing .requestId .absent) := by
  rw [← scan_get?] at h
  simp only [extract, show (scan fields).requestId = none from h]
  rfl

theorem extract_of_arn_missing {id : String} (hi : lastValue? .requestId fields = some id)
    (h : lastValue? .functionArn fields = none) :
    extract fields body = .error (missing .functionArn (.text id)) := by
  rw [← scan_get?] at hi h
  simp only [extract, show (scan fields).requestId = some id from hi,
    show (scan fields).functionArn = none from h]
  rfl

theorem extract_of_required {id arn : String} (hi : lastValue? .requestId fields = some id)
    (ha : lastValue? .functionArn fields = some arn) :
    extract fields body =
      (Deadline.parse (lastValue? .deadline fields)).map (describe fields body id arn) := by
  rw [← scan_get?] at hi ha ⊢
  simp only [extract, show (scan fields).requestId = some id from hi,
    show (scan fields).functionArn = some arn from ha]
  change (Deadline.parse (scan fields).deadline >>= _) =
    (Deadline.parse (scan fields).deadline).map _
  cases Deadline.parse (scan fields).deadline with
  | error e => rfl
  | ok deadline =>
    simp only [Except.map, describe, ← scan_get?]
    rfl

theorem extract_eq_ok_iff {i : Invocation} :
    extract fields body = .ok i ↔ lastValue? .requestId fields = some i.id ∧
      lastValue? .functionArn fields = some i.functionArn ∧
      Deadline.parse (lastValue? .deadline fields) = .ok i.deadline ∧
      i = describe fields body i.id i.functionArn i.deadline := by
  cases hi : lastValue? .requestId fields with
  | none => simp [extract_of_id_missing hi]
  | some id =>
    cases ha : lastValue? .functionArn fields with
    | none => simp [extract_of_arn_missing hi ha]
    | some arn =>
      rw [extract_of_required hi ha]
      cases hd : Deadline.parse (lastValue? .deadline fields) with
      | error e => simp [Except.map]
      | ok deadline =>
        constructor
        · intro h
          obtain rfl : describe fields body id arn deadline = i := Except.ok.inj h
          exact ⟨rfl, rfl, rfl, rfl⟩
        · rintro ⟨hid, harn, hdl, he⟩
          cases hid; cases harn; cases hdl
          exact congrArg Except.ok he.symm

/-- What is described alike has the same last values, up to the text of the deadline. -/
theorem lastValue?_of_extract {fields' : Fields} {body' : Option ByteArray} {i : Invocation}
    (h : extract fields body = .ok i) (h' : extract fields' body' = .ok i) (hf : f ≠ .deadline) :
    lastValue? f fields = lastValue? f fields' := by
  obtain ⟨hi, ha, -, hr⟩ := extract_eq_ok_iff.mp h
  obtain ⟨hi', ha', -, hr'⟩ := extract_eq_ok_iff.mp h'
  have he := hr.symm.trans hr'
  cases f with
  | requestId => exact hi.trans hi'.symm
  | functionArn => exact ha.trans ha'.symm
  | deadline => exact absurd rfl hf
  | traceId => exact congrArg Invocation.traceId he
  | clientContext => exact congrArg Invocation.clientContext he
  | cognitoIdentity => exact congrArg Invocation.cognitoIdentity he

theorem deadline_of_extract {fields' : Fields} {body' : Option ByteArray} {i : Invocation}
    (h : extract fields body = .ok i) (h' : extract fields' body' = .ok i) :
    Deadline.parse (lastValue? .deadline fields) = Deadline.parse (lastValue? .deadline fields') :=
  (extract_eq_ok_iff.mp h).2.2.1.trans (extract_eq_ok_iff.mp h').2.2.1.symm

theorem extract_eq_error_iff {e : Failure} :
    extract fields body = .error e ↔
      (lastValue? .requestId fields = none ∧ e = missing .requestId .absent) ∨
      (∃ id, lastValue? .requestId fields = some id ∧ lastValue? .functionArn fields = none ∧
        e = missing .functionArn (.text id)) ∨
      ∃ id arn, lastValue? .requestId fields = some id ∧ lastValue? .functionArn fields = some arn ∧
        Deadline.parse (lastValue? .deadline fields) = .error e := by
  cases hi : lastValue? .requestId fields with
  | none => simp [extract_of_id_missing hi, eq_comm]
  | some id =>
    cases ha : lastValue? .functionArn fields with
    | none => simp [extract_of_arn_missing hi ha, eq_comm]
    | some arn =>
      rw [extract_of_required hi ha]
      cases Deadline.parse (lastValue? .deadline fields) <;> simp [Except.map]

end InvocationClient.Metadata
