namespace Demux

/-- The test that the equality tests of frames and messages go by, whatever else is imported. -/
instance decEqBytes : DecidableEq ByteArray :=
  ByteArray.instDecidableEq

end Demux
