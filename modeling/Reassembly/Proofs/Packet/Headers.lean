import Mathlib.Tactic.SplitIfs
import Reassembly.Packet.Decode

/-!
# Headers lie within their data

A header that is read is no longer than the data it is read from, so the parts of a
capture that are cut out behind its headers all lie within the capture.
-/

set_option autoImplicit false

namespace Reassembly

theorem IpHeader.length_le_of_readV4 {data : Bytes} {ip : IpHeader}
    (read : IpHeader.readV4 data = .ok ip) : ip.length ≤ data.length := by
  unfold readV4 at read
  dsimp only at read
  split_ifs at read with room short cut other
  cases read
  exact Nat.le_of_not_lt cut

theorem IpHeader.length_le_of_readV6 {data : Bytes} {ip : IpHeader}
    (read : IpHeader.readV6 data = .ok ip) : ip.length ≤ data.length := by
  unfold readV6 at read
  dsimp only at read
  split_ifs at read with room other
  cases read
  exact room

theorem IpHeader.length_le_of_read {data : Bytes} {ip : IpHeader}
    (read : IpHeader.read data = .ok ip) : ip.length ≤ data.length := by
  unfold IpHeader.read at read
  split at read
  · cases read
  · split at read
    · exact length_le_of_readV4 read
    · exact length_le_of_readV6 read
    · cases read

theorem TcpHeader.length_le_of_read {segment : Bytes} {tcp : TcpHeader}
    (read : TcpHeader.read segment = .ok tcp) : tcp.length ≤ segment.length := by
  unfold TcpHeader.read at read
  dsimp only at read
  split_ifs at read with room short cut
  cases read
  exact Nat.le_of_not_lt cut

/-- What stands behind the headers of a datagram, up to the end that it claims or to the end of
the data, starts no later than there. -/
def Bytes.HoldsHeaders (data : Bytes) : Prop :=
  ∀ ip, IpHeader.read data = .ok ip → ip.length ≤ ip.stop →
    ip.length ≤ min ip.stop data.length ∧
      ∀ tcp, TcpHeader.read ((data.take ip.stop).drop ip.length) = .ok tcp →
        ip.length + tcp.length ≤ min ip.stop data.length

theorem Bytes.holdsHeaders (data : Bytes) : data.HoldsHeaders := by
  intro ip read claimed
  have header := IpHeader.length_le_of_read read
  refine ⟨by omega, ?_⟩
  intro tcp segment
  have room := TcpHeader.length_le_of_read segment
  rw [List.length_drop, List.length_take] at room
  omega

end Reassembly
