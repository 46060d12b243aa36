import RecDtn.Bpv7.Cboring

namespace RecDtn.Bpv7

open Wire Lang

/-- Milliseconds since the start of the year 2000. -/
abbrev DtnTime := UInt64

/-- A `time.Time`: nanoseconds since the Unix epoch. -/
abbrev Time := Int

namespace DtnTime

def milliseconds1970To2k : Int64 := 946684800000

def unixMilliseconds (time : DtnTime) : Int64 := time.toInt64 + milliseconds1970To2k

/-- `Time`: seconds by truncated division, the rest in nanoseconds. -/
def time (time : DtnTime) : Time :=
  let unixSec := time.unixMilliseconds.toInt.tdiv 1000
  let unixNano := (time.unixMilliseconds.toInt - unixSec * 1000) * 1000000
  unixSec * 1000000000 + unixNano

end DtnTime

/-- `time.Duration(lifetime) * time.Millisecond`, in nanoseconds. -/
def lifetimeDuration (lifetime : UInt64) : Int := (lifetime.toInt64 * 1000000).toInt

structure CreationTimestamp where
  dtnTime : DtnTime
  sequenceNumber : UInt64
  deriving DecidableEq

namespace CreationTimestamp

def isZeroTime (timestamp : CreationTimestamp) : Bool := timestamp.dtnTime = 0

variable [Cboring]

def marshalCbor (timestamp : CreationTimestamp) : List UInt8 :=
  Cboring.writeArrayLength 2 ++ Cboring.writeUInt timestamp.dtnTime ++
    Cboring.writeUInt timestamp.sequenceNumber

def lengthError (l : UInt64) : GoError := .text s!"expected array with length 2, got {l}"

def unmarshalCbor : ByteReader CreationTimestamp := Cboring.readPair lengthError CreationTimestamp.mk

theorem reads_marshalCbor (timestamp : CreationTimestamp) :
    Reads buffer unmarshalCbor timestamp.marshalCbor timestamp := Cboring.reads_pair _ _

theorem tracks_unmarshalCbor : Tracks unmarshalCbor := Cboring.tracks_pair _ _

end CreationTimestamp

end RecDtn.Bpv7
