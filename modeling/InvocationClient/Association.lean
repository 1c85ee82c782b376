/-! # Association lists

Key-value lists in which a key has one place: the first that it was given.
-/

namespace InvocationClient.Association

variable {α β : Type} [DecidableEq α]

/-- Gives `key` the value `value`: in its place if it has one, else at the end. -/
def put (key : α) (value : β) : List (α × β) → List (α × β)
  | [] => [(key, value)]
  | e :: es => if e.1 = key then (key, value) :: es else e :: put key value es

/-- The pairs with each key once, in its first place and with its last value. -/
def ofPairs (pairs : List (α × β)) : List (α × β) :=
  pairs.foldl (fun es p => put p.1 p.2 es) []

def get? (key : α) (es : List (α × β)) : Option β :=
  (es.find? (·.1 = key)).map (·.2)

@[simp] theorem get?_nil (key : α) : get? key ([] : List (α × β)) = none := rfl

theorem get?_put (key k : α) (value : β) (es : List (α × β)) :
    get? k (put key value es) = if key = k then some value else get? k es := by
  induction es with
  | nil => by_cases h : key = k <;> simp [put, get?, h]
  | cons e es ih =>
    rw [put]
    split
    · by_cases h : key = k <;> simp_all [get?]
    · by_cases hk : e.1 = k
      · simp_all [get?, eq_comm]
      · simpa [get?, hk] using ih

theorem put_of_not_mem {key : α} {es : List (α × β)} (h : key ∉ es.map Prod.fst) (value : β) :
    put key value es = es ++ [(key, value)] := by
  induction es with
  | nil => rfl
  | cons e es ih =>
    rw [List.map_cons, List.mem_cons, not_or] at h
    rw [put, if_neg (Ne.symm h.1), ih h.2, List.cons_append]

end InvocationClient.Association
