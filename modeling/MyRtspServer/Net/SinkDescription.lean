import MyRtspServer.Library.Octets
import MyRtspServer.Net.RtpSinks

/-!
# What the sinks say about themselves in the SDP

`GetMediaDescription` and `GetAttribute` of the two sinks. Their `sprintf` buffers
are not part of the model: the texts are.
-/
namespace MyRtspServer.Net

open Library Library.Octets

namespace H264RtpSink

def getMediaDescription (s : H264RtpSink) (port : UInt16) : Octets :=
  ascii "m=video " ++ dec port.toNat ++ ascii " RTP/AVP " ++ dec s.base.payloadType.toNat

def getAttribute (s : H264RtpSink) : Octets :=
  ascii "a=rtpmap:" ++ dec s.base.payloadType.toNat ++ ascii " H264/" ++ intDec s.clockRate ++
    ascii "\r\n" ++ ascii "a=framerate:" ++ intDec s.fps

end H264RtpSink

/-- `AACSampleRate`. -/
def aacSampleRate : List UInt32 :=
  [97000, 88200, 64000, 48000, 44100, 32000, 24000, 22050, 16000, 12000, 11025, 8000, 7350, 0, 0, 0]

namespace AACRtpSink

def getMediaDescription (s : AACRtpSink) (port : UInt16) : Octets :=
  ascii "m=audio " ++ dec port.toNat ++ ascii " RTP/AVP " ++ dec s.base.payloadType.toNat

/-- `config_str`: the AudioSpecificConfig of profile 1 in hexadecimal digits. -/
def config (s : AACRtpSink) (index : Nat) : Octets :=
  hex 2 (16 ||| index >>> 1) ++ hex 2 ((index <<< 7 ||| s.channels.toNat <<< 3) % 256)

/-- `atoi(config_str)` reads its leading decimal digits. -/
def configNumber (s : AACRtpSink) (index : Nat) : Octets :=
  let digits := dec (decValue ((s.config index).takeWhile isDigit))
  List.replicate (4 - digits.length) 48 ++ digits

def getAttribute (s : AACRtpSink) : Octets :=
  let index := aacSampleRate.findIdx (· = s.sampleRate)
  if index = 16 then []
  else
    ascii "a=rtpmap:97 mpeg4-generic/" ++ dec s.sampleRate.toNat ++ ascii "/" ++
      dec s.channels.toNat ++ ascii "\r\n" ++
      ascii "a=fmtp:" ++ dec s.base.payloadType.toNat ++
      ascii " profile-level-id=1;mode=AAC-hbr;sizelength=13;indexlength=3;indexdeltalength=3;" ++
      ascii "config=" ++ s.configNumber index

end AACRtpSink

def Sink.getMediaDescription (s : Sink) (port : UInt16) : Octets :=
  match s with
  | .h264 sink => sink.getMediaDescription port
  | .aac sink => sink.getMediaDescription port

def Sink.getAttribute : Sink → Octets
  | .h264 sink => sink.getAttribute
  | .aac sink => sink.getAttribute

end MyRtspServer.Net
