import MultiPhyTsch.Tsch.Node

/-! The radio layer as TSCH sees it: `multiradio.c`, the channel and configuration part of
the cc1200 and cc2538 drivers, and `tsch_calculate_channel`. The size that
`tsch_calculate_channel` passes to `get_object`, that of a pointer, equals the size of a
divisor on the 32-bit targets, so the drivers do answer. -/

namespace MultiPhyTsch

variable (conf : TschConf)

def multiradioSelect (radio : Option RadioDriver) (phy : Phy) : Phy :=
  match radio with
  | some driver =>
    if driver ∈ conf.multiradioDrivers then { phy with currentRadio := some driver } else phy
  | none => phy

def netstackDriver (phy : Phy) : Option RadioDriver :=
  match conf.netstackRadio with
  | .multiradio => phy.currentRadio
  | .driver radio => some radio

def hoppingSequenceDivisor (phy : Phy) : Option TschAsnDivisor :=
  (netstackDriver conf phy).map fun
    | .cc1200 => phy.cc1200Divisor
    | .cc2538Rf => phy.cc2538Divisor

def Cc1200RfCfg.channels (config : Cc1200RfCfg) : UInt16 :=
  config.maxChannel.toUInt16 - config.minChannel.toUInt16 + 1

/-- `set_channel` of the cc1200; while the radio is busy the update is postponed. -/
def cc1200SetChannel (busy : Bool) (channel : UInt8) (phy : Phy) : Phy :=
  let config := phy.currentRfConfig
  let channel := UInt8.ofNat (channel.toNat % config.channels.toNat) + config.minChannel
  if channel < config.minChannel ∨ channel > config.maxChannel then phy
  else if busy then phy
  else { phy with cc1200Channel := channel }

def cc2538SetChannel (channel : UInt8) (phy : Phy) : Phy :=
  { phy with cc2538Channel := channel % 16 + 11 }

def netstackSetChannel (busy : Bool) (channel : UInt8) (phy : Phy) : Phy :=
  match netstackDriver conf phy with
  | some .cc1200 => cc1200SetChannel busy channel phy
  | some .cc2538Rf => cc2538SetChannel channel phy
  | none => phy

def cc1200Reconfigure (config : Cc1200RfCfg) (busy : Bool) (channel : UInt8) (phy : Phy) : Phy :=
  cc1200SetChannel busy channel { phy with
    currentRfConfig := config
    cc1200Divisor := tschAsnDivisorInit config.channels }

def channelDivisor (phy : Phy) (mac : Mac) : TschAsnDivisor :=
  match hoppingSequenceDivisor conf phy with
  | some radioDivisor =>
    if radioDivisor.val < mac.tschHoppingSequenceLength.val then radioDivisor
    else mac.tschHoppingSequenceLength
  | none => mac.tschHoppingSequenceLength

def tschCalculateChannel (phy : Phy) (mac : Mac) (asn : TschAsn) (channelOffset : UInt8) : UInt8 :=
  if conf.noHoppingSequence then asn.ls4b.toUInt8 + channelOffset
  else
    let divisor := channelDivisor conf phy mac
    let indexOf0 := tschAsnMod asn divisor
    let indexOfOffset := (indexOf0.toNat + channelOffset.toNat) % divisor.val.toNat
    mac.tschHoppingSequence.getD indexOfOffset 0

end MultiPhyTsch
