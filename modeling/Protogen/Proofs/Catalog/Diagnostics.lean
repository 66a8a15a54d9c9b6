import Protogen.Proofs.Catalog.Fetch
import Protogen.Proofs.Json.Grammar

/-!
# What a failed call says about itself

A body is an account of the failure if it is an object with a code that says something, and then
its code and its message are reported. Any other body should be reported as it is, under the reason
of the status, and so it is where it cannot be mistaken for an account: an object without a code
is read as one with an empty code and an empty message, and what it says is lost.
-/

namespace Protogen

namespace Catalog

open Json

/-! ### Accounts of failures -/

/-- An object whose keys are all texts. -/
def keyedObject (members : List (String × JsonValue)) : JsonValue :=
  .object (members.map fun m => (some m.1, m.2))

/-- The text that the members have under the key. A missing one is empty. -/
inductive Gives (key : String) : List (String × JsonValue) → String → Prop
  | missing {members : List (String × JsonValue)} :
      (∀ m ∈ members, m.1 ≠ key) → Gives key members ""
  | once {before behind : List (String × JsonValue)} {content : String} :
      (∀ m ∈ before, m.1 ≠ key) → (∀ m ∈ behind, m.1 ≠ key) →
        Gives key (before ++ (key, .text (some content)) :: behind) content

/-- The body is the catalog's own account of a failure: an object with one code, which is not empty,
and with one message or none. -/
def IsAccount (body : List UInt8) (code message : String) : Prop :=
  ∃ members, IsElement body (keyedObject members) ∧ code ≠ "" ∧ Gives "code" members code ∧
    Gives "message" members message

/-- What is read from a body that is taken for an account, which need not say anything. -/
inductive TakenFor (body : List UInt8) : String → String → Prop
  | object {members : List (String × JsonValue)} {code message : String} :
      IsElement body (keyedObject members) → Gives "code" members code →
        Gives "message" members message → TakenFor body code message
  | array {contents : List String} :
      IsElement body (.array (contents.map fun content => .text (some content))) →
        contents.length ≤ 2 → TakenFor body (contents.getD 0 "") (contents.getD 1 "")

/-- The body is no account, but is taken for one. -/
def IsMistaken (body : List UInt8) : Prop :=
  ∃ code message, TakenFor body code message ∧ ¬IsAccount body code message

/-- What is reported of the body: its own code and message if it is an account, and all of it
otherwise. -/
structure Reports (body : List UInt8) (code message : String) : Prop where
  code_ne : code ≠ ""
  account : ∀ ownCode ownMessage, IsAccount body ownCode ownMessage →
    code = ownCode ∧ message = ownMessage
  whole : (∀ ownCode ownMessage, ¬IsAccount body ownCode ownMessage) →
    message = Text.ofUtf8Lossy body

theorem reason_ne (status : Nat) : reason status ≠ "" := by
  have hreasons : ∀ r ∈ reasons, r.2 ≠ "" := by decide
  rw [reason]
  cases hlookup : reasons.lookup status with
  | none => decide
  | some text =>
      obtain ⟨before, behind, heq, -⟩ := List.lookup_eq_some_iff.mp hlookup
      exact hreasons (status, text) (by simp [heq])

/-! ### What is read -/

theorem keyed?_eq_some_iff (members : List (Option String × JsonValue))
    (keyed : List (String × JsonValue)) :
    ErrorBody.keyed? members = some keyed ↔ members = keyed.map fun m => (some m.1, m.2) := by
  fun_induction ErrorBody.keyed? members generalizing keyed with
  | case1 =>
      cases keyed with
      | nil => exact iff_of_true rfl rfl
      | cons => exact iff_of_false nofun nofun
  | case2 key value rest ih =>
      rw [Option.map_eq_some_iff]
      constructor
      · rintro ⟨more, hmore, rfl⟩
        rw [(ih more).mp hmore]
        rfl
      · intro h
        obtain _ | ⟨⟨key', value'⟩, more⟩ := keyed
        · exact nomatch h
        · obtain ⟨hfirst, hmore⟩ := List.cons.inj h
          cases hfirst
          exact ⟨more, (ih more).mpr hmore, rfl⟩
  | case3 =>
      refine iff_of_false nofun fun h => ?_
      cases keyed <;> cases h

theorem member?_eq_some_iff (key : String) (members : List (String × JsonValue))
    (content : String) :
    ErrorBody.member? key members = some content ↔ Gives key members content := by
  constructor
  · intro h
    rw [ErrorBody.member?] at h
    split at h
    · rename_i hnone
      cases h
      exact .missing fun m hm hkey => by simpa [hkey] using List.filter_eq_nil_iff.mp hnone m hm
    · rename_i key' content' hone
      cases h
      obtain ⟨before, behind, rfl, hbefore, hkey, hbehind⟩ := List.filter_eq_cons_iff.mp hone
      obtain rfl : key' = key := by simpa using hkey
      exact .once (by simpa using hbefore) (by simpa using hbehind)
    · exact nomatch h
  · intro h
    rw [ErrorBody.member?]
    cases h with
    | missing hnone =>
        have hfilter : members.filter (fun m => m.1 == key) = [] := by simpa using hnone
        rw [hfilter]
    | @once before behind _ hbefore hbehind =>
        have hfilter : (before ++ (key, .text (some content)) :: behind).filter
            (fun m => m.1 == key) = [(key, .text (some content))] := by
          refine List.filter_eq_cons_iff.mpr ⟨before, behind, rfl, ?_, ?_, ?_⟩
          · simpa using hbefore
          · simp
          · simpa using hbehind
        rw [hfilter]

theorem ofBytes?_eq_some_iff (body : List UInt8) (e : ErrorBody) :
    ErrorBody.ofBytes? body = some e ↔ TakenFor body e.code e.message := by
  rw [ErrorBody.ofBytes?, Option.bind_eq_some_iff]
  simp only [JsonValue.ofBytes?_eq_some_iff]
  constructor
  · rintro ⟨v, hv, he⟩
    rw [ErrorBody.ofValue?.eq_def] at he
    split at he
    · obtain ⟨keyed, hkeyed, he⟩ := Option.bind_eq_some_iff.mp he
      obtain ⟨code, hcode, he⟩ := Option.bind_eq_some_iff.mp he
      obtain ⟨message, hmessage, he⟩ := Option.bind_eq_some_iff.mp he
      cases he
      rw [(keyed?_eq_some_iff _ _).mp hkeyed] at hv
      exact .object hv ((member?_eq_some_iff _ _ _).mp hcode)
        ((member?_eq_some_iff _ _ _).mp hmessage)
    · cases he
      exact @TakenFor.array body [] hv (by simp)
    · rename_i code
      cases he
      exact @TakenFor.array body [code] hv (by simp)
    · rename_i code message
      cases he
      exact @TakenFor.array body [code, message] hv (by simp)
    · exact nomatch he
  · obtain ⟨code, message⟩ := e
    intro h
    cases h with
    | object hv hcode hmessage =>
        refine ⟨_, hv, ?_⟩
        rw [keyedObject, ErrorBody.ofValue?, (keyed?_eq_some_iff _ _).mpr rfl,
          Option.bind_eq_bind, Option.bind_some, (member?_eq_some_iff _ _ _).mpr hcode,
          (member?_eq_some_iff _ _ _).mpr hmessage]
        rfl
    | @array contents hv hlength =>
        refine ⟨_, hv, ?_⟩
        match contents with
        | [] | [_] | [_, _] => rfl
        | _ :: _ :: _ :: _ =>
            simp only [List.length_cons] at hlength
            omega

/-! ### What is reported -/

theorem IsAccount.takenFor {body : List UInt8} {code message : String}
    (h : IsAccount body code message) : TakenFor body code message := by
  obtain ⟨members, hbody, -, hcode, hmessage⟩ := h
  exact .object hbody hcode hmessage

theorem TakenFor.unique {body : List UInt8} {code message code' message' : String}
    (h : TakenFor body code message) (h' : TakenFor body code' message') :
    code = code' ∧ message = message' := by
  have hread := (ofBytes?_eq_some_iff body ⟨code, message⟩).mpr h
  have hread' := (ofBytes?_eq_some_iff body ⟨code', message'⟩).mpr h'
  simpa using hread.symm.trans hread'

theorem IsAccount.not_isMistaken {body : List UInt8} {code message : String}
    (h : IsAccount body code message) : ¬IsMistaken body := by
  rintro ⟨code', message', htaken, hno⟩
  obtain ⟨rfl, rfl⟩ := htaken.unique h.takenFor
  exact hno h

theorem length_lt_of_isElement {bs : List UInt8} {content : String}
    (h : IsElement bs (.text (some content))) : (Text.utf8Bytes content).length < bs.length := by
  generalize hv : JsonValue.text (some content) = v at h
  obtain ⟨-, h, -⟩ := h
  cases h with
  | text htext =>
      obtain hcontent := JsonValue.text.inj hv
      have := htext.length_le hcontent.symm
      simp only [List.length_append, List.length_cons]
      omega
  | _ => cases hv

theorem length_lt_of_areItems {bs : List UInt8} {contents : List String}
    (h : AreItems bs (contents.map fun content => .text (some content))) {content : String}
    (hcontent : content ∈ contents) : (Text.utf8Bytes content).length < bs.length := by
  induction contents generalizing bs with
  | nil => exact nomatch hcontent
  | cons first contents ih =>
      rw [List.map_cons] at h
      generalize hmore : contents.map (fun content => JsonValue.text (some content)) = items at h
      cases h with
      | last hfirst =>
          obtain rfl := List.map_eq_nil_iff.mp hmore
          obtain rfl := List.mem_singleton.mp hcontent
          exact length_lt_of_isElement hfirst
      | more hfirst hitems =>
          rw [List.length_append, List.length_cons]
          rcases List.mem_cons.mp hcontent with rfl | hcontent
          · exact Nat.lt_add_right _ (length_lt_of_isElement hfirst)
          · have := ih (hmore ▸ hitems) hcontent
            omega

/-- An array is longer than each text in it. -/
theorem length_lt_of_array {body : List UInt8} {contents : List String}
    (h : IsElement body (.array (contents.map fun content => .text (some content))))
    {content : String} (hcontent : content ∈ contents) :
    (Text.utf8Bytes content).length < body.length := by
  generalize hv : JsonValue.array (contents.map fun content => .text (some content)) = v at h
  obtain ⟨-, h, -⟩ := h
  cases h with
  | emptyArray =>
      obtain rfl := List.map_eq_nil_iff.mp (JsonValue.array.inj hv)
      exact nomatch hcontent
  | array hitems =>
      obtain rfl := JsonValue.array.inj hv
      have := length_lt_of_areItems hitems hcontent
      simp only [List.length_append, List.length_cons]
      omega
  | _ => cases hv

/-- What is read from a body that is no account is not the body itself, or has no code. -/
theorem TakenFor.not_reports {body : List UInt8} {code message : String}
    (h : TakenFor body code message) (hbody : body ≠ []) (hno : ¬IsAccount body code message) :
    ¬Reports body code message := by
  intro hreports
  have hnone (ownCode ownMessage : String) : ¬IsAccount body ownCode ownMessage := by
    intro haccount
    obtain ⟨rfl, rfl⟩ := h.unique haccount.takenFor
    exact hno haccount
  cases h with
  | object hobject hcode hmessage => exact hno ⟨_, hobject, hreports.code_ne, hcode, hmessage⟩
  | @array contents harray hlength =>
      have hwhole := hreports.whole hnone
      have hsize := Text.length_le_ofUtf8Lossy body
      rw [← hwhole, List.getD_eq_getElem?_getD] at hsize
      cases hsecond : contents[1]? with
      | none =>
          rw [hsecond] at hsize
          exact hbody (List.length_eq_zero_iff.mp (Nat.le_zero.mp hsize))
      | some content =>
          rw [hsecond] at hsize
          have hshorter := length_lt_of_array harray (List.mem_of_getElem? hsecond)
          exact absurd hsize (Nat.not_le.mpr hshorter)

theorem reports_ofAnswer_iff (status : Nat) {body : List UInt8} (hbody : body ≠ []) :
    Reports body (ErrorBody.ofAnswer status body).code (ErrorBody.ofAnswer status body).message ↔
      ¬IsMistaken body := by
  rw [ErrorBody.ofAnswer]
  cases hread : ErrorBody.ofBytes? body with
  | none =>
      have hnone (code message : String) : ¬TakenFor body code message := fun h =>
        nomatch hread.symm.trans ((ofBytes?_eq_some_iff body ⟨code, message⟩).mpr h)
      refine iff_of_true ⟨reason_ne status, fun code message h => ?_, fun _ => rfl⟩ ?_
      · exact absurd h.takenFor (hnone code message)
      · rintro ⟨code, message, h, -⟩
        exact hnone code message h
  | some e =>
      have htaken := (ofBytes?_eq_some_iff body e).mp hread
      rw [Option.getD_some]
      by_cases haccount : IsAccount body e.code e.message
      · refine iff_of_true ⟨?_, fun code message h => htaken.unique h.takenFor, fun hnone => ?_⟩
          haccount.not_isMistaken
        · obtain ⟨_, -, hcode, -⟩ := haccount
          exact hcode
        · exact absurd haccount (hnone _ _)
      · exact iff_of_false (htaken.not_reports hbody haccount)
          (not_not.mpr ⟨_, _, htaken, haccount⟩)

theorem Reply.complete?_eq_some_iff (reply : Reply) (status : Nat) (body : List UInt8) :
    reply.complete? = some (status, body) ↔ reply = .answer status body true := by
  cases reply with
  | nothing => simp [complete?]
  | answer _ _ complete => cases complete <;> simp [complete?]

/-- Any status but a success makes an error of the body. -/
theorem Client.result_fetch_of_refused {c : Client} {ask : HttpRequest → Reply} {slug : String}
    {status : Nat} {body : List UInt8} (hanswer : c.answer? ask slug = some (status, body))
    (hstatus : ¬(200 ≤ status ∧ status < 300)) :
    (c.fetch ask slug).result = .error (.refused c.address status
      (ErrorBody.ofAnswer status body).code (ErrorBody.ofAnswer status body).message) := by
  obtain ⟨question, hsent, hcomplete⟩ := Option.bind_eq_some_iff.mp hanswer
  have hrequest : c.request slug = .ok question := by
    rw [sent?] at hsent
    cases hrequest : c.request slug with
    | error => simp [hrequest, Except.toOption] at hsent
    | ok => simpa [hrequest, Except.toOption] using hsent
  have hreply : ask question = .answer status body true :=
    (Reply.complete?_eq_some_iff _ _ _).mp hcomplete
  have hfailure : isSuccess status = false := by
    rw [← Bool.not_eq_true, isSuccess_iff]
    exact hstatus
  rw [result_fetch_of_ok c ask slug hrequest, hreply, outcome, datasetOf]
  simp only [hfailure]
  rfl

/-- A failure is told as it was explained just if its body is not mistaken for an account. -/
theorem explanation_reported_iff (c : Client) (ask : HttpRequest → Reply) (slug : String)
    (status : Nat) (body : List UInt8) (hanswer : c.answer? ask slug = some (status, body))
    (hstatus : ¬(200 ≤ status ∧ status < 300)) (hbody : body ≠ []) :
    ∃ code message, (c.fetch ask slug).result = .error (.refused c.address status code message) ∧
      (Reports body code message ↔ ¬IsMistaken body) :=
  ⟨_, _, Client.result_fetch_of_refused hanswer hstatus, reports_ofAnswer_iff status hbody⟩

def accountBody : List UInt8 :=
  Text.utf8Bytes "\x7b\"code\":\"not_found\",\"message\":\"no such dataset\"\x7d"

theorem account_reported :
    (Client.catalogClient.fetch (fun _ => .answer 404 accountBody true) "acme.tracks").result =
      .error (.refused Client.catalogClient.address 404 "not_found" "no such dataset") := by
  have hbody : IsElement accountBody (keyedObject [("code", .text (some "not_found")),
      ("message", .text (some "no such dataset"))]) :=
    (JsonValue.ofBytes?_eq_some_iff _ _).mp rfl
  have haccount : IsAccount accountBody "not_found" "no such dataset" :=
    ⟨_, hbody, by decide, (member?_eq_some_iff _ _ _).mp rfl, (member?_eq_some_iff _ _ _).mp rfl⟩
  obtain ⟨code, message, hresult, hreports⟩ :=
    explanation_reported_iff Client.catalogClient (fun _ => .answer 404 accountBody true)
      "acme.tracks" 404 accountBody rfl (by decide) (by decide +kernel)
  obtain ⟨rfl, rfl⟩ := (hreports.mpr haccount.not_isMistaken).account _ _ haccount
  exact hresult

/-- The object in which a gateway explains itself. -/
def gatewayBody : List UInt8 := Text.utf8Bytes "\x7b\"error\":\"bad gateway\"\x7d"

theorem gateway_explanation_lost :
    (Client.catalogClient.fetch (fun _ => .answer 502 gatewayBody true) "acme.tracks").result =
        .error (.refused Client.catalogClient.address 502 "" "") ∧
      ¬Reports gatewayBody "" "" := by
  have hanswer : Client.catalogClient.answer? (fun _ => .answer 502 gatewayBody true)
      "acme.tracks" = some (502, gatewayBody) := rfl
  have hread : ErrorBody.ofAnswer 502 gatewayBody = ⟨"", ""⟩ := by decide +kernel
  refine ⟨?_, fun hreports => hreports.code_ne rfl⟩
  rw [Client.result_fetch_of_refused hanswer (by decide), hread]

end Catalog

end Protogen
