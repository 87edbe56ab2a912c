import RdmaKvCache.Epoll.InputFrames

/-!
# The benchmark client

`BenchmarkClient::send_request` sends the bytes of one message and takes what
one `recv` returns for the bytes of another.  The orchestrator expects a length
in front of each message and puts one in front of its own.

The request that is sent is the shortest message with its identifier and prompt,
so no part of it behind four bytes can be one.  In a response of less than 16 MiB
the first byte of the length stands where the client expects the type, and is
the type of a request.
-/

namespace RdmaKvCache

open CheckedReaders ResumableParsers

namespace BenchmarkClient

/-! ## Sending and receiving -/

/-- The message that `send_request` builds in the memory of a new one. -/
def request
    (origin : Message.Origin) (requestId prompt : ByteString)
    (maxTokens : Int32) : Message :=
  let memory := Message.new origin.memory
  { memory with
    type := .clientRequest
    sourceNodeId := []
    requestInfo :=
      { memory.requestInfo with
        requestId := requestId
        prompt := prompt
        maxTokens := maxTokens
        timestampCreated := origin.now } }

inductive Transfer where
  | failed
  | moved (bytes : ByteString)
  deriving DecidableEq

def maxRecvBuffer : Nat :=
  65536

/-- The text of the response in what `recv` has returned; `none` when
`send_request` returns false. -/
def responseOf (received : ByteString) : Option ByteString :=
  if received = [] then
    none
  else
    match deserializeMessage received with
    | .overrun | .refused => none
    | .done response _ =>
        if response.type = .clientError then none
        else if response.type ≠ .clientResponse then none
        else some response.responseText

/-- Send the request and wait for the response, with the results of `send` and
`recv`. -/
def sendRequest
    (origin : Message.Origin) (requestId prompt : ByteString)
    (maxTokens : Int32) (sent received : Transfer) : Option ByteString :=
  match sent with
  | .failed => none
  | .moved bytes =>
      if bytes.length ≠
          (serializeMessage (request origin requestId prompt maxTokens)).length
      then
        none
      else
        match received with
        | .failed => none
        | .moved bytes => responseOf bytes

/-! ## Lengths -/

theorem length_request
    (origin : Message.Origin) (requestId prompt : ByteString)
    (maxTokens : Int32) :
    (serializeMessage (request origin requestId prompt maxTokens)).length =
      204 + requestId.length + prompt.length := by
  rw [length_serializeMessage, length_writeRequestInfo]
  simp only [request, Message.new, RequestInfo.new, List.length_nil,
    length_writeNodeInfo_new, writeList, List.flatMap_nil, List.append_nil,
    length_writeUint32]
  omega

/-- No message with its identifier and prompt is shorter than a request. -/
theorem length_request_le
    (origin : Message.Origin) (maxTokens : Int32) (message : Message) :
    (serializeMessage
        (request origin message.requestInfo.requestId
          message.requestInfo.prompt maxTokens)).length ≤
      (serializeMessage message).length := by
  have node := le_length_writeNodeInfo message.nodeInfo
  have members :=
    length_writeList writeNodeInfo message.membershipListInfo
  rw [length_request, length_serializeMessage, length_writeRequestInfo]
  omega

/-! ## Requests -/

/-- A buffer is at least as long as the message that is read from it. -/
theorem length_of_done
    {data rest : ByteString} {message : Message}
    (done : deserializeMessage data = .done message rest) :
    (serializeMessage message).length ≤ data.length := by
  obtain ⟨encoding, encodes, rfl⟩ :=
    (reads_deserializeMessage.done_iff data message rest).mp done
  have normalized := ((message.encodes_iff encoding).mp encodes).2
  rw [← normalized, length_normalizeHealth, List.length_append]
  exact Nat.le_add_right _ _

theorem length_of_frame
    {payloads : List ByteString} {payload stream rest : ByteString}
    (split : stream = (payloads.map frame).flatten ++ rest)
    (framed : payload ∈ payloads) :
    payload.length + 4 ≤ stream.length := by
  have listed : frame payload ∈ payloads.map frame :=
    List.mem_map_of_mem framed
  have length := (List.sublist_flatten_of_mem listed).length_le
  rw [split, List.length_append]
  simp only [frame, List.length_append, length_writeUint32] at length
  omega

/-- What the orchestrator makes of a request. -/
def Understood
    (events : List Event) (fd : Int32) (requestId prompt : ByteString)
    (maxTokens : Int32) : Prop :=
  ∃ message, events = [⟨fd, message⟩] ∧ message.type = .clientRequest ∧
    message.requestInfo.requestId = requestId ∧
    message.requestInfo.prompt = prompt ∧
    message.requestInfo.maxTokens = maxTokens

theorem not_understood
    (origin : Message.Origin) (requestId prompt : ByteString)
    (maxTokens : Int32) {fd : Int32} {chunks : List ByteString}
    (sent :
      chunks.flatten =
        serializeMessage (request origin requestId prompt maxTokens)) :
    ¬ Understood (receiveChunks fd chunks).outputs fd requestId prompt
      maxTokens := by
  rintro ⟨message, emitted, -, rfl, rfl, -⟩
  obtain ⟨payloads, rest, frames, parsed⟩ := parse_stream fd chunks.flatten
  rw [receiveChunks_eq, parsed] at emitted
  have outputs : payloads.filterMap (payloadEvent fd) = [⟨fd, message⟩] :=
    emitted
  have listed : (⟨fd, message⟩ : Event) ∈ payloads.filterMap (payloadEvent fd) := by
    rw [outputs]
    exact List.mem_singleton.mpr rfl
  obtain ⟨payload, framed, event⟩ := List.mem_filterMap.mp listed
  obtain ⟨read, value, same⟩ := Option.map_eq_some_iff.mp event
  cases same
  cases outcome : deserializeMessage payload with
  | overrun | refused =>
      rw [outcome] at value
      cases value
  | done decoded remaining =>
      rw [outcome] at value
      cases value
      have payloadLength := length_of_done outcome
      have frameLength := length_of_frame frames.split framed
      have shortest := length_request_le origin maxTokens message
      rw [sent] at frameLength
      omega

/-! ## Responses -/

/-- What is read starts with its type. -/
theorem type_of_done
    {byte : UInt8} {data rest : ByteString} {message : Message}
    (done : deserializeMessage (byte :: data) = .done message rest) :
    message.type.code = codeOfByte byte := by
  obtain ⟨encoding, encodes, same⟩ :=
    (reads_deserializeMessage.done_iff _ message rest).mp done
  obtain ⟨⟨fits, -⟩, node, members, -, -, rfl⟩ := encodes
  have first : byte = byteOfCode message.type.code := by
    simp only [Message.beforeNode, List.append_assoc] at same
    exact (List.cons.inj same).1
  rw [first, codeOfByte_byteOfCode fits.type]

/-- One byte is too little. -/
theorem responseOf_singleton (byte : UInt8) : responseOf [byte] = none := by
  cases outcome : deserializeMessage [byte] with
  | overrun | refused =>
      simp only [responseOf, outcome, ite_self]
  | done message rest =>
      have length := length_of_done outcome
      rw [length_serializeMessage, List.length_singleton] at length
      omega

/-- The length of a response below 16 MiB starts with the type of a request. -/
theorem responseOf_frame
    {payload received : ByteString} (short : payload.length < 2 ^ 24)
    (arrived : received <+: frame payload) : responseOf received = none := by
  have fits : FitsSize payload.length :=
    Nat.lt_trans short (by decide)
  cases received with
  | nil =>
      rfl
  | cons byte data =>
      obtain ⟨rest, whole⟩ := arrived
      have first :
          byte =
            UInt8.ofNat
              ((UInt32.ofNat payload.length).toNat / 256 / 256 / 256) :=
        (List.cons.inj whole).1
      have zero : payload.length / 256 / 256 / 256 = 0 := by
        omega
      rw [toNat_size fits, zero] at first
      subst first
      cases outcome : deserializeMessage (UInt8.ofNat 0 :: data) with
      | overrun | refused =>
          simp only [responseOf, outcome, ite_self]
      | done message rest =>
          have code := type_of_done outcome
          have type : message.type = .clientRequest := by
            rw [← message.type.ofCode_code, code]
            rfl
          simp only [responseOf, outcome, type]
          rfl

/-! ## Both ends -/

/-- No request is understood, however it is cut.  No response is understood when
its first byte arrives alone, and none below 16 MiB however it arrives. -/
theorem request_and_response_not_understood
    (origin : Message.Origin) (requestId prompt : ByteString)
    (maxTokens : Int32) :
    (∀ (fd : Int32) (chunks : List ByteString),
      chunks.flatten =
          serializeMessage (request origin requestId prompt maxTokens) →
        ¬ Understood (receiveChunks fd chunks).outputs fd requestId prompt
          maxTokens) ∧
    (∀ (sent : Transfer) (response : Message),
      ∃ received, received <+: frame (serializeMessage response) ∧
        received.length ≤ maxRecvBuffer ∧
          sendRequest origin requestId prompt maxTokens sent
            (.moved received) = none) ∧
    ∀ (sent : Transfer) (response : Message) (received : ByteString),
      (serializeMessage response).length < 2 ^ 24 →
        received <+: frame (serializeMessage response) →
          sendRequest origin requestId prompt maxTokens sent
            (.moved received) = none := by
  have refused
      (sent : Transfer) {received : ByteString}
      (refusing : responseOf received = none) :
      sendRequest origin requestId prompt maxTokens sent (.moved received) =
        none := by
    cases sent with
    | failed =>
        rfl
    | moved bytes =>
        simp only [sendRequest, refusing, ite_self]
  refine ⟨?_, ?_, ?_⟩
  · intro fd chunks sent
    exact not_understood origin requestId prompt maxTokens sent
  · intro sent response
    exact
      ⟨[_], List.prefix_append [_] _, show 1 ≤ maxRecvBuffer by decide,
        refused sent (responseOf_singleton _)⟩
  · intro sent response received short arrived
    exact refused sent (responseOf_frame short arrived)

/-- In memory full of zeros the length is zero and the connection is removed.
The response arrives whole. -/
theorem greeting_not_understood :
    receiveChunks 7
        [serializeMessage
          (request ⟨.cleared, 0⟩ (.ofText "req_0_0") (.ofText "Hello") 16)] =
      ⟨[], .rejected 0⟩ ∧
      responseOf
          (frame (serializeMessage
            (.createClientResponse ⟨.cleared, 0⟩ (.ofText "orchestrator")
              Message.cleared.requestInfo (.ofText "Hi")))) =
        none := by
  decide +kernel

end BenchmarkClient

end RdmaKvCache
