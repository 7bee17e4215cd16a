import Mathlib.Data.List.TakeDrop
import MatrixGoose.Foundation.OrderedMultiMap

/-!
# Responses

The conversion of a response of the HTTP client into a plain HTTP response.  The
headers are drained and inserted one by one, and a drained value comes with its name
only if it is the first one of that name.
-/

namespace MatrixGoose

open Foundation

namespace HttpClient

abbrev HeaderMap (Name Value : Type) := OrderedMultiMap Name Value

/-- `reqwest::Response`; reading the body can fail. -/
structure ReqwestResponse (Name Value Error : Type) where
  status : Nat
  headers : HeaderMap Name Value
  bytes : Except Error (List UInt8)

/-- `http::Response<Bytes>`. -/
structure HttpResponseBytes (Name Value : Type) where
  status : Nat
  headers : HeaderMap Name Value
  body : List UInt8

variable {Name Value Error : Type} [DecidableEq Name]

/-- The body of the loop over the drained headers. -/
def insertHeader (headers : HeaderMap Name Value) :
    Option Name × Value -> HeaderMap Name Value
  | (some key, v) => headers.insert key v
  | (none, _) => headers

def responseToHttpResponse (response : ReqwestResponse Name Value Error) :
    Except Error (HttpResponseBytes Name Value) := do
  let headers := response.headers.drain.foldl insertHeader OrderedMultiMap.empty
  let body <- response.bytes
  return { status := response.status, headers, body }

/-!
# The headers that are kept
-/

theorem foldl_insertHeader_further (headers : HeaderMap Name Value)
    (further : List Value) :
    (further.map fun v => (none, v)).foldl insertHeader headers = headers := by
  induction further with
  | nil => rfl
  | cons v further ih => exact ih

theorem foldl_insertHeader_entry (headers : HeaderMap Name Value)
    (entry : Name × Value × List Value) :
    (OrderedMultiMap.drainEntry entry).foldl insertHeader headers =
      headers.insert entry.1 entry.2.1 :=
  foldl_insertHeader_further (headers.insert entry.1 entry.2.1) entry.2.2

theorem getAll_foldl_insertHeader (headers : HeaderMap Name Value)
    {entries : Dict Name (Value × List Value)} (h : (entries.map Prod.fst).Nodup)
    (name : Name) :
    ((entries.flatMap OrderedMultiMap.drainEntry).foldl insertHeader headers).getAll name =
      match Dict.get entries name with
      | some (first, _) => [first]
      | none => headers.getAll name := by
  induction entries generalizing headers with
  | nil => rfl
  | cons entry entries ih =>
      rw [List.map_cons, List.nodup_cons] at h
      rw [List.flatMap_cons, List.foldl_append, foldl_insertHeader_entry, ih _ h.2,
        Dict.get_cons, OrderedMultiMap.getAll_insert]
      by_cases hname : entry.1 = name
      · have hlater : Dict.get entries name = none := by
          apply Dict.get_eq_none.mpr
          rw [← hname]
          exact h.1
        rw [hlater, if_pos hname, if_pos hname]
      · rw [if_neg hname, if_neg hname]

/-- Of each header the first value is kept. -/
theorem getAll_insertHeaders (headers : HeaderMap Name Value) (name : Name) :
    (headers.drain.foldl insertHeader OrderedMultiMap.empty).getAll name =
      (headers.getAll name).take 1 := by
  rw [OrderedMultiMap.drain, getAll_foldl_insertHeader _ headers.nodup]
  cases hname : Dict.get headers.entries name with
  | none =>
      rw [OrderedMultiMap.getAll_of_get_eq_none hname]
      exact OrderedMultiMap.getAll_empty name
  | some values =>
      rw [OrderedMultiMap.getAll_of_get_eq_some hname]
      rfl

/-!
# Lossless conversion
-/

def Lossless (response : ReqwestResponse Name Value Error) (body : List UInt8) : Prop :=
  exists converted, responseToHttpResponse response = Except.ok converted ∧
    converted.status = response.status ∧ converted.body = body ∧
      forall name, converted.headers.getAll name = response.headers.getAll name

theorem responseToHttpResponse_of_body {response : ReqwestResponse Name Value Error}
    {body : List UInt8} (hbody : response.bytes = Except.ok body) :
    responseToHttpResponse response = Except.ok
      { status := response.status
        headers := response.headers.drain.foldl insertHeader OrderedMultiMap.empty
        body } := by
  simp [responseToHttpResponse, hbody, bind, Except.bind, pure, Except.pure]

/-- A response is converted without loss exactly if no header has several values. -/
theorem responseToHttpResponse_lossless_iff {response : ReqwestResponse Name Value Error}
    {body : List UInt8} (hbody : response.bytes = Except.ok body) :
    Lossless response body <-> response.headers.SingleValued := by
  constructor
  · intro hlossless name
    rcases hlossless with ⟨converted, hconverted, _, _, hheaders⟩
    rw [responseToHttpResponse_of_body hbody] at hconverted
    cases hconverted
    have htake := hheaders name
    rw [getAll_insertHeaders, List.take_eq_self_iff] at htake
    exact htake
  · intro hsingle
    apply Exists.intro
    constructor
    · exact responseToHttpResponse_of_body hbody
    · constructor
      · rfl
      · constructor
        · rfl
        · intro name
          rw [getAll_insertHeaders, List.take_eq_self_iff]
          exact hsingle name

def emptyResponse (name first : String) (further : List String) :
    ReqwestResponse String String Unit where
  status := 200
  headers :=
    { entries := [(name, first, further)]
      nodup := List.nodup_cons.mpr ⟨List.not_mem_nil, List.nodup_nil⟩ }
  bytes := Except.ok []

theorem getAll_emptyResponse (name first : String) (further : List String)
    (other : String) :
    (emptyResponse name first further).headers.getAll other =
      if name = other then first :: further else [] := by
  by_cases hother : name = other <;>
    simp [OrderedMultiMap.getAll, emptyResponse, Dict.get, hother]

theorem responseToHttpResponse_lossless_iff_content_type :
    Lossless (emptyResponse "content-type" "application/json" []) [] := by
  apply (responseToHttpResponse_lossless_iff rfl).mpr
  intro name
  rw [getAll_emptyResponse]
  split <;> simp

/-- Of two cookies the second one is lost. -/
theorem second_cookie_is_lost :
    ¬ Lossless (emptyResponse "set-cookie" "a=1" ["b=2"]) [] := by
  intro h
  rcases h with ⟨converted, hconverted, _, _, hheaders⟩
  cases hconverted
  have hcookies := hheaders "set-cookie"
  rw [getAll_insertHeaders, getAll_emptyResponse] at hcookies
  simp at hcookies

end HttpClient
end MatrixGoose
