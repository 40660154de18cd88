import EntityDiagram.Generator.Service
import EntityDiagram.Proofs.Json.Printing
import EntityDiagram.Proofs.Text.Utf8

/-! # What is asked and what is answered

A text goes to the chat service in one request, which any reader of the format takes apart into the
model, the two messages and the flag again. The status of the answer is judged before its body, and
a body is a reply exactly if it stands for a value with one message that has one content, however
that value is written. Whatever else happens, extraction yields the empty model. None of this asks
anything of the client that carries the request; with one that hands request and answer on as they
are, it is what the service does that counts.
-/

namespace EntityDiagram

variable {name r : String} {inner v : Value}

/-! ## Fields -/

namespace Value

/-- `inner` is the only value of the field `name`, next to fields of other names, or the only item
of an array. -/
inductive Gives (name : String) (inner : Value) : Value → Prop
  | member {before behind : List (Option (List Char) × Value)}
      (others : ∀ m ∈ before ++ behind, ∃ key, m.1 = some key ∧ key ≠ name.toList) :
      Gives name inner (.table (before ++ (some name.toList, inner) :: behind))
  | item : Gives name inner (.array [inner])

theorem valuesOf_eq_nil {members : List (Option (List Char) × Value)}
    (others : ∀ m ∈ members, m.1 ≠ some name.toList) : valuesOf members name = [] :=
  List.filterMap_eq_nil_iff.mpr fun m member => if_neg (others m member)

theorem valuesOf_eq_singleton_iff {members : List (Option (List Char) × Value)} :
    valuesOf members name = [inner] ↔ ∃ before behind,
      members = before ++ (some name.toList, inner) :: behind ∧
        ∀ m ∈ before ++ behind, m.1 ≠ some name.toList := by
  have unlisted : ∀ m : Option (List Char) × Value,
      (if m.1 = some name.toList then some m.2 else none) = none → m.1 ≠ some name.toList := by
    intro m none same
    rw [if_pos same] at none
    cases none
  constructor
  · intro values
    obtain ⟨before, ⟨key?, value⟩, behind, rfl, first, here, last⟩ :=
      List.filterMap_eq_cons_iff.mp values
    have named : key? = some name.toList ∧ value = inner := by
      simp only [Option.ite_none_right_eq_some, Option.some.injEq] at here
      exact here
    obtain ⟨rfl, rfl⟩ := named
    refine ⟨before, behind, rfl, fun m member => unlisted m ?_⟩
    rcases List.mem_append.mp member with early | late
    · exact first m early
    · exact List.filterMap_eq_nil_iff.mp last m late
  · rintro ⟨before, behind, rfl, others⟩
    have first := valuesOf_eq_nil fun m member => others m (List.mem_append_left behind member)
    have last := valuesOf_eq_nil fun m member => others m (List.mem_append_right before member)
    have here : valuesOf ((some name.toList, inner) :: behind) name =
        inner :: valuesOf behind name := List.filterMap_cons_some (if_pos rfl)
    have split : valuesOf (before ++ (some name.toList, inner) :: behind) name =
        valuesOf before name ++ valuesOf ((some name.toList, inner) :: behind) name :=
      List.filterMap_append
    rw [split, here, first, last]
    rfl

theorem fields?_table_iff {members : List (Option (List Char) × Value)} :
    (table members).fields? [name] false = some [some inner] ↔
      (∀ m ∈ members, m.1.isSome = true) ∧ valuesOf members name = [inner] := by
  simp only [fields?, List.map_cons, List.map_nil, List.all_cons, List.all_nil, Bool.and_true,
    Bool.and_eq_true, List.all_eq_true, decide_eq_true_eq, Option.ite_none_right_eq_some,
    Option.some.injEq, List.cons.injEq, and_true, and_assoc]
  refine and_congr_right fun _ => ⟨?_, ?_⟩
  · rintro ⟨atMost, first⟩
    obtain ⟨rest, values⟩ := List.head?_eq_some_iff.mp first
    rw [values, List.length_cons] at atMost
    have single : rest = [] := List.eq_nil_of_length_eq_zero (by omega)
    rw [values, single]
  · intro values
    rw [values]
    exact ⟨Nat.le_refl 1, rfl⟩

theorem fields?_array_iff {items : List Value} :
    (array items).fields? [name] false = some [some inner] ↔ items = [inner] := by
  cases items with
  | nil => exact iff_of_false nofun nofun
  | cons first rest =>
    cases rest with
    | nil => simp [fields?]
    | cons second others => exact iff_of_false nofun nofun

theorem mem_around {m x : Option (List Char) × Value}
    {before behind : List (Option (List Char) × Value)} :
    m ∈ before ++ x :: behind ↔ m = x ∨ m ∈ before ++ behind := by
  rw [List.mem_append, List.mem_cons, List.mem_append, or_left_comm]

theorem fields?_one_iff : v.fields? [name] false = some [some inner] ↔ Gives name inner v := by
  constructor
  · intro fields
    cases v with
    | table members =>
      obtain ⟨keys, values⟩ := fields?_table_iff.mp fields
      obtain ⟨before, behind, rfl, others⟩ := valuesOf_eq_singleton_iff.mp values
      refine .member fun m member => ?_
      obtain ⟨key, named⟩ := Option.isSome_iff_exists.mp (keys m (mem_around.mpr (.inr member)))
      exact ⟨key, named, fun same => others m member (same ▸ named)⟩
    | array items =>
      obtain rfl := fields?_array_iff.mp fields
      exact .item
    | _ => cases fields
  · intro gives
    cases gives with
    | @member before behind others =>
      refine fields?_table_iff.mpr ⟨fun m member => ?_, valuesOf_eq_singleton_iff.mpr
        ⟨before, behind, rfl, fun m member same => ?_⟩⟩
      · rcases mem_around.mp member with rfl | around
        · rfl
        · obtain ⟨key, named, -⟩ := others m around
          rw [named]
          rfl
      · obtain ⟨key, named, other⟩ := others m member
        exact other (Option.some.inj (named.symm.trans same))
    | item => exact fields?_array_iff.mpr rfl

end Value

/-! ## Replies -/

namespace Chat

/-- A value with one message that has one content, the text `r`. -/
def Carries (v : Value) (r : String) : Prop :=
  ∃ message, Value.Gives "message" message v ∧ Value.Gives "content" (.text r) message

theorem string?_eq_some_iff : v.string? = some r ↔ v = .text r := by
  rw [Value.text]
  constructor
  · intro found
    cases v with
    | string text? =>
      cases text? with
      | none => cases found
      | some cs =>
        obtain rfl := Option.some.inj found
        rw [String.toList_ofList]
    | _ => cases found
  · rintro rfl
    rw [Value.string?, String.ofList_toList]

theorem content?_eq_some_iff : content? v = some r ↔ Value.Gives "content" (.text r) v := by
  rw [← Value.fields?_one_iff, content?]
  constructor
  · intro found
    split at found
    · next content fields => rw [fields, string?_eq_some_iff.mp found]
    · cases found
  · intro fields
    rw [fields]
    exact string?_eq_some_iff.mpr rfl

theorem reply?_eq_some_iff : reply? v = some r ↔ Carries v r := by
  rw [reply?]
  constructor
  · intro found
    split at found
    · next message fields =>
      exact ⟨message, Value.fields?_one_iff.mp fields, content?_eq_some_iff.mp found⟩
    · cases found
  · rintro ⟨message, given, content⟩
    rw [Value.fields?_one_iff.mpr given]
    exact content?_eq_some_iff.mpr content

/-- A body is a reply exactly if it stands for a value that carries one. -/
theorem decode_eq_ok_iff {body : String} :
    decode body = .ok r ↔ ∃ v, Json.Represents body v ∧ Carries v r := by
  have replied : (Json.read? body).bind reply? = some r ↔
      ∃ v, Json.Represents body v ∧ Carries v r := by
    rw [Option.bind_eq_some_iff]
    exact exists_congr fun v => and_congr Json.read?_eq_some_iff reply?_eq_some_iff
  rw [← replied, decode]
  cases (Json.read? body).bind reply? with
  | none => exact iff_of_false nofun nofun
  | some content =>
    constructor
    · rintro ⟨⟩
      rfl
    · rintro ⟨⟩
      rfl

theorem decode_cases (body : String) :
    (∃ r, decode body = .ok r) ∨ ∃ reason, decode body = .error (.decode reason) := by
  rw [decode]
  cases (Json.read? body).bind reply? with
  | none => exact .inr ⟨_, rfl⟩
  | some content => exact .inl ⟨content, rfl⟩

/-! ## Requests -/

theorem plain_message (role content : String) : Json.Plain (message role content) := by
  refine .record fun m member => ?_
  simp only [List.mem_cons, List.not_mem_nil, or_false] at member
  rcases member with rfl | rfl
  · exact .string _
  · exact .string _

theorem plain_request (model instructions text : String) :
    Json.Plain (request model instructions text) := by
  refine .record fun m member => ?_
  simp only [List.mem_cons, List.not_mem_nil, or_false] at member
  rcases member with rfl | rfl | rfl
  · exact .string _
  · refine .array fun v listed => ?_
    simp only [List.mem_cons, List.not_mem_nil, or_false] at listed
    rcases listed with rfl | rfl
    · exact plain_message _ _
    · exact plain_message _ _
  · exact .bool false

end Chat

/-! ## Exchanges -/

/-- What a service does with a request: it cannot be reached, it closes the connection, or it
answers with a status and the content of its answer, which is empty for a status that has none. -/
inductive Transport where
  | refused
  | closed
  | answered (status : Nat) (content : List UInt8)

namespace Client

/-- Requests and answers are handed on as they are, an answer with any status, and no redirect is
followed. The content of an answer is read as text, with replacement characters where it is none. -/
structure Delivers (client : Client) (service : Post → Transport) : Prop where
  refused : ∀ post, service post = .refused → ∃ reason, client post = .error reason
  closed : ∀ post, service post = .closed → ∃ reason, client post = .error reason
  answered : ∀ post status content, service post = .answered status content →
    client post = .ok { status, text := .ok (String.ofList (Text.decodeLossy content)) }

/-- The client that does nothing else. -/
def direct (service : Post → Transport) : Client := fun post =>
  match service post with
  | .refused => .error "the service cannot be reached"
  | .closed => .error "the connection was closed before an answer came"
  | .answered status content =>
    .ok { status, text := .ok (String.ofList (Text.decodeLossy content)) }

variable {client : Client} {service : Post → Transport} {post : Post}

theorem Delivers.unheard (delivers : client.Delivers service)
    (silent : service post = .refused ∨ service post = .closed) :
    ∃ reason, client post = .error reason := by
  rcases silent with refuses | closes
  · exact delivers.refused post refuses
  · exact delivers.closed post closes

/-- Text comes as it was sent. -/
theorem Delivers.answered_text (delivers : client.Delivers service) {status : Nat} {reply : String}
    (answers : service post = .answered status (Text.encode reply.toList)) :
    client post = .ok { status, text := .ok reply } := by
  rw [delivers.answered post status _ answers, Text.decodeLossy_encode, String.ofList_toList]

theorem direct_delivers (service : Post → Transport) : (direct service).Delivers service where
  refused post refuses := ⟨_, by rw [direct, refuses]⟩
  closed post closes := ⟨_, by rw [direct, closes]⟩
  answered post status content answers := by rw [direct, answers]

end Client

namespace Service

/-- What comes of an answer with this status and this body. A refusal is one whatever the body is; a
success has the content of the body as its result exactly if the body stands, in whatever spelling,
for a value that carries one, and is a failed reading if it stands for no such value. -/
structure Judged (status : Nat) (body : String) (result : Except GenerateError String) : Prop where
  refusal : ¬(200 ≤ status ∧ status < 300) → result = .error (.response status body)
  content : 200 ≤ status ∧ status < 300 →
    ∀ r, result = .ok r ↔ ∃ v, Json.Represents body v ∧ Chat.Carries v r
  unread : 200 ≤ status ∧ status < 300 →
    (∀ v r, Json.Represents body v → ¬Chat.Carries v r) → ∃ reason, result = .error (.decode reason)

variable {status : Nat} {body : String}

theorem isSuccess_iff : isSuccess status = true ↔ 200 ≤ status ∧ status < 300 := by
  rw [isSuccess, Bool.and_eq_true, decide_eq_true_eq, decide_eq_true_eq]

/-- The status decides before the body is read. -/
theorem judged_interpret (status : Nat) (body : String) :
    Judged status body (interpret (.ok { status, text := .ok body })) := by
  have success : 200 ≤ status ∧ status < 300 →
      interpret (.ok { status, text := .ok body }) = Chat.decode body := by
    intro within
    simp only [interpret, isSuccess_iff.mpr within, if_true]
  refine ⟨fun outside => ?_, fun within r => ?_, fun within never => ?_⟩
  · simp only [interpret, mt isSuccess_iff.mp outside, Bool.false_eq_true, if_false]
  · rw [success within, Chat.decode_eq_ok_iff]
  · rw [success within]
    rcases Chat.decode_cases body with ⟨r, decoded⟩ | decoded
    · obtain ⟨v, represents, carries⟩ := Chat.decode_eq_ok_iff.mp decoded
      exact absurd carries (never v r represents)
    · exact decoded

theorem run_generate (s : Service) (instructions text : String) (client : Client) :
    (s.generate instructions text).run client =
      { value := interpret (client (s.post instructions text))
        posts := [s.post instructions text] } := by
  simp only [generate, Dialogue.run_bind, Dialogue.run_send, Dialogue.run_pure, List.append_nil]

/-- One request is made of a text, with any client: it goes to the endpoint of the service, and any
reader finds the model, the two messages and the flag in its body. Without a whole answer the
request has failed; an answer is judged by its status and its body. With a client that delivers, a
service that is not reached or does not answer is a failed request, and the answer that is judged is
that of the service, byte for byte where it is text. Extraction makes the same request with its own
instructions; it reads the result like any document, and yields the empty model and a record of the
failure if there is none. -/
theorem generate_faithful (s : Service) (instructions text : String) :
    let body := Chat.requestText s.model instructions text
    let post : Post := { url := s.endpoint, contentType := "application/json", body }
    Json.read? body = some (.record [("model", .text s.model),
      ("messages", .array [.record [("role", .text "system"), ("content", .text instructions)],
        .record [("role", .text "user"), ("content", .text text)]]),
      ("stream", .bool false)]) ∧
    (∀ client : Client,
      let sent := (s.generate instructions text).run client
      sent.posts = [post] ∧
      (∀ reason, client post = .error reason → sent.value = .error (.request reason)) ∧
      (∀ status reason, client post = .ok { status, text := .error reason } →
        sent.value = .error (.request reason)) ∧
      (∀ status reply, client post = .ok { status, text := .ok reply } →
        Judged status reply sent.value) ∧
      ∀ service, client.Delivers service →
        (service post = .refused ∨ service post = .closed →
          ∃ reason, sent.value = .error (.request reason)) ∧
        (∀ status content, service post = .answered status content →
          Judged status (String.ofList (Text.decodeLossy content)) sent.value) ∧
        ∀ status reply, service post = .answered status (Text.encode reply.toList) →
          Judged status reply sent.value) ∧
    ∀ client : Client,
      let generated := (s.generate Generator.instructions text).run client
      let extracted := (Generator.extract s.generate text).run client
      extracted.posts = generated.posts ∧
      (∀ r, generated.value = .ok r → extracted.value.value = (Document.parse r).value) ∧
      ∀ e, generated.value = .error e →
        extracted.value.value = .empty ∧ Generator.failed e ∈ extracted.value.log := by
  intro body post
  refine ⟨Json.read?_render (Chat.plain_request s.model instructions text), fun client => ?_,
    fun client => ?_⟩
  · intro sent
    have sent_eq : sent = { value := interpret (client post), posts := [post] } :=
      run_generate s instructions text client
    have judged : ∀ status reply, client post = .ok { status, text := .ok reply } →
        Judged status reply sent.value := by
      intro status reply got
      rw [sent_eq, got]
      exact judged_interpret status reply
    have failed : ∀ reason, client post = .error reason →
        sent.value = .error (.request reason) := by
      intro reason none
      rw [sent_eq, none]
      rfl
    refine ⟨by rw [sent_eq], failed, fun status reason broken => ?_, judged,
      fun service delivers => ⟨fun silent => ?_, fun status content answers => ?_,
        fun status reply answers => ?_⟩⟩
    · rw [sent_eq, broken]
      rfl
    · obtain ⟨reason, none⟩ := delivers.unheard silent
      exact ⟨reason, failed reason none⟩
    · exact judged status _ (delivers.answered post status content answers)
    · exact judged status reply (delivers.answered_text answers)
  · intro generated extracted
    have read : extracted =
        { value := Generator.read generated.value, posts := generated.posts } :=
      Generator.run_extract s.generate text client
    rw [read]
    refine ⟨rfl, fun r success => ?_, fun e failure => ?_⟩
    · rw [success]
      rfl
    · rw [failure]
      exact ⟨rfl, List.mem_cons_of_mem _ (List.mem_cons_self ..)⟩

/-- A reply from a named host, with a line break, another field in front, escapes and a character in
two halves. -/
theorem generate_faithful_spelling :
    let reply := "\x7b \"done\" : [1e3, \x7b\x7d],\n\"message\": " ++
      "\x7b\"content\":\"\\u0041\\ud83d\\uDE00\", \"role\":null\x7d \x7d"
    let service : Post → Transport := fun post =>
      if post.url = "https://ollama.internal/api/chat" then
        .answered 200 (Text.encode reply.toList)
      else .refused
    let client := Client.direct service
    let s : Service := { baseUrl := "https://ollama.internal/" }
    client.Delivers service ∧
      (s.generate "rules" "a \"hotel\"").run client = {
        value := .ok "A😀"
        posts := [{
          url := "https://ollama.internal/api/chat"
          body := Chat.requestText "llama3" "rules" "a \"hotel\"" }] } := by
  intro reply service client s
  have delivers : client.Delivers service := Client.direct_delivers service
  have decoded : (Chat.decode reply).toOption = some "A😀" := by decide +kernel
  have carried : Chat.decode reply = .ok "A😀" := by
    rcases Chat.decode_cases reply with ⟨r, ok⟩ | ⟨reason, failed⟩
    · rw [ok] at decoded ⊢
      exact congrArg Except.ok (Option.some.inj decoded)
    · rw [failed] at decoded
      cases decoded
  have endpoint : s.endpoint = "https://ollama.internal/api/chat" := by decide
  obtain ⟨-, asked, -⟩ := generate_faithful s "rules" "a \"hotel\""
  obtain ⟨posts, -, -, -, answered⟩ := asked client
  obtain ⟨-, -, judged⟩ := answered service delivers
  rw [endpoint] at posts judged
  obtain ⟨-, replied, -⟩ := judged 200 reply (if_pos rfl)
  have value := (replied (by decide) "A😀").mpr (Chat.decode_eq_ok_iff.mp carried)
  refine ⟨delivers, ?_⟩
  cases sent : (s.generate "rules" "a \"hotel\"").run client with
  | mk value' posts' =>
    rw [sent] at posts value
    rw [← posts, ← value]

end Service

end EntityDiagram
