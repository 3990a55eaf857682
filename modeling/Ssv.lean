import Ssv.Validation.Message
import Ssv.Validation.MessageCounts
import Ssv.Validation.Admission
import Ssv.Validation.History
import Ssv.Validation.CountsString
import Ssv.Exporter.CacheKey
import Ssv.Exporter.Stream
import Ssv.Exporter.Window
import Ssv.Validation.LoggerFields
import Ssv.Topics.Tracer
import Ssv.Topics.Scoring
import Ssv.Beacon.GoClient
