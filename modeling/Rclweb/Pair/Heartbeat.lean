import Mathlib.Data.Prod.Lex
import Mathlib.Order.WellFounded
import Rclweb.Engine.Outbound
import Rclweb.Gateway.Outbound
import Rclweb.Library.Runs
import Rclweb.Pair.System

/-!
# Heartbeats do not die out

Either side answers an inbound heartbeat with one of its own, and neither sends one for any
other inbound message.  So deliveries come to an end as long as none of them is a heartbeat:
whatever the client takes shortens its queue and is not answered, and what the gateway takes
shortens the queue towards it.  Two ready sides with a single heartbeat in flight hand it back
and forth for ever.
-/

namespace Rclweb

open Rclweb.Frame Control Engine Gateway

namespace Pair

variable {jwt : JwtLibrary} {setup : PairSetup jwt} {p q : Pair}

/-! ## Deliveries without heartbeats -/

/-- Any delivery. -/
def DeliverAny (setup : PairSetup jwt) (p q : Pair) : Prop := ∃ bytes, Deliver setup p bytes q

/-- What decreases: first the queue towards the gateway, then the one towards the client. -/
def pending (p : Pair) : ℕ ×ₗ ℕ := toLex (p.toGateway.length, p.toClient.length)

/-- No heartbeat is in flight. -/
def NoHeartbeat (p : Pair) : Prop := ∀ bytes ∈ p.toGateway ++ p.toClient, ¬ IsHeartbeat bytes

/-- Only the delivery of a heartbeat puts one in flight. -/
theorem NoHeartbeat.deliver (hnone : p.NoHeartbeat) {bytes : List UInt8}
    (h : Deliver setup p bytes q) : ¬ IsHeartbeat bytes ∧ q.NoHeartbeat := by
  cases h with
  | toClient bufferId _ rest hbox hopen =>
    have hquiet : ¬ IsHeartbeat bytes := hnone bytes (by simp [hbox])
    have hout := ClientEngine.poll_outbound_of_not_heartbeat setup.lib setup.wasm32 p.engine
      bufferId bytes hopen hquiet
    refine ⟨hquiet, fun b hb => hnone b ?_⟩
    simp only [poll, hout, List.map_nil, List.append_nil, List.mem_append] at hb
    rw [hbox, List.mem_append, List.mem_cons]
    exact hb.imp_right .inr
  | toGateway sessionId _ rest events t hbox hopen hruns =>
    have hquiet : ¬ IsHeartbeat bytes := hnone bytes (by simp [hbox])
    have hturn := ConnState.endsQuiet_handleInbound setup.config setup.active sessionId p.conn bytes
      hquiet events t hruns
    refine ⟨hquiet, fun b hb => ?_⟩
    simp only [gatewayTurn, List.mem_append] at hb
    rcases hb with hb | hb | hb
    · exact hnone b (by simp [hbox, hb])
    · exact hnone b (by simp [hb])
    · exact hturn b hb

/-- What an encoded heartbeat parses to. -/
theorem parse_heartbeat {sequence counter : UInt64} {bytes : List UInt8}
    (h : Encode.encodeControlFrame 0 sequence (heartbeatMessage counter) = .ok bytes) :
    ∃ frame msg, parseFrame bytes defaultOptions = .ok frame ∧
      frame.opcode = opcodeControlCbor ∧ frame.payload = .control msg ∧
      msg.kind = kindHeartbeat ∧ frame.sequence = sequence := by
  obtain ⟨msg, hsendable, hkind⟩ := sendable_heartbeat counter
  obtain ⟨bytes', payloadLen, hbytes, hparse⟩ := hsendable.parse sequence
  obtain rfl : bytes = bytes' := Except.ok.inj (h.symm.trans hbytes)
  exact ⟨_, msg, hparse, rfl, rfl, hkind, rfl⟩

/-- Both sides are ready and open. -/
structure BothReady (p : Pair) : Prop where
  client : p.engine.session.phase = .ready
  clientOpen : p.engine.closed = false
  gateway : p.conn.session.phase = .ready
  gatewayOpen : p.gatewayOpen = true

/-- A heartbeat on its way to the gateway, and nothing else in flight. -/
structure Serve (p : Pair) : Prop extends BothReady p where
  flight : p.toClient = [] ∧ ∃ counter bytes, p.toGateway = [bytes] ∧
    Encode.encodeControlFrame 0 (UInt64.ofNat p.conn.controlSeqIn) (heartbeatMessage counter) =
      .ok bytes
  outbound : p.engine.controlSeqOut = p.conn.controlSeqIn + 1
  inbound : p.engine.controlSeqIn = p.conn.controlSeqOut

/-- A heartbeat on its way back to the client, and nothing else in flight. -/
structure Return (p : Pair) : Prop extends BothReady p where
  flight : p.toGateway = [] ∧ ∃ counter bytes, p.toClient = [bytes] ∧
    Encode.encodeControlFrame 0 (UInt64.ofNat p.engine.controlSeqIn) (heartbeatMessage counter) =
      .ok bytes
  outbound : p.engine.controlSeqOut = p.conn.controlSeqIn
  inbound : p.conn.controlSeqOut = p.engine.controlSeqIn + 1

theorem Serve.deliver (h : p.Serve) : ∃ q, DeliverAny setup p q ∧ q.Return := by
  obtain ⟨hclient, counter, bytes, hbox, hbytes⟩ := h.flight
  obtain ⟨frame, msg, hparse, hopcode, hpayload, hkind, hseq⟩ := parse_heartbeat hbytes
  obtain ⟨out, counter', hinbound, hout⟩ := ConnState.handleInbound_heartbeat setup.config
    setup.active scriptSessionId p.conn h.gateway hparse hopcode hpayload hkind hseq
  refine ⟨_, ⟨bytes, .toGateway p scriptSessionId bytes [] [] _ hbox h.gatewayOpen
    (by rw [hinbound]; exact Program.Returns.pure _)⟩, ?_⟩
  exact
    { client := h.client
      clientOpen := h.clientOpen
      gateway := h.gateway
      gatewayOpen := rfl
      flight := ⟨rfl, counter', out, by simp [gatewayTurn, hclient],
        by rw [← hout]; exact congrArg (Encode.encodeControlFrame 0 · _)
            (congrArg UInt64.ofNat h.inbound)⟩
      outbound := h.outbound
      inbound := by
        rw [show (gatewayTurn { p with toGateway := [] } _).engine.controlSeqIn = _ from h.inbound]
        rfl }

theorem Return.deliver (h : p.Return) : ∃ q, DeliverAny setup p q ∧ q.Serve := by
  obtain ⟨hgateway, counter, bytes, hbox, hbytes⟩ := h.flight
  obtain ⟨frame, msg, hparse, hopcode, hpayload, hkind, hseq⟩ := parse_heartbeat hbytes
  obtain ⟨hlink, counter', out, hmap, hout⟩ := ClientEngine.poll_heartbeat setup.lib setup.wasm32
    0 h.client h.clientOpen hparse hopcode hpayload hkind hseq
  refine ⟨_, ⟨bytes, .toClient p 0 bytes [] hbox h.clientOpen⟩, ?_⟩
  exact
    { client := (congrArg (fun l : Link => l.session.phase) hlink).trans h.client
      clientOpen := congrArg Link.closed hlink
      gateway := h.gateway
      gatewayOpen := h.gatewayOpen
      flight := ⟨rfl, counter', out, by simp only [poll, hgateway, List.nil_append, hmap],
        by rw [← hout]; exact congrArg (Encode.encodeControlFrame 0 · _)
            (congrArg UInt64.ofNat h.outbound.symm)⟩
      outbound := (congrArg Link.controlSeqOut hlink).trans (congrArg (· + 1) h.outbound)
      inbound := (congrArg Link.controlSeqIn hlink).trans h.inbound.symm }

end Pair
end Rclweb
