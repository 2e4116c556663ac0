import ClpCore.Date
import ClpCore.TimestampPattern.Defs
import ClpCore.TimestampPattern.Tokens
import ClpCore.TimestampPattern.Safety
import ClpCore.TimestampPattern.LongestMatch
import ClpCore.TimestampPattern.Digits
import ClpCore.TimestampPattern.ReadBack
import ClpCore.TimestampPattern.RoundTrip
import ClpCore.TimestampPattern.Separation
import ClpCore.TimestampPattern.Inverse
import ClpCore.TimestampPattern.Errors
import ClpCore.TimestampPattern.Locality
import ClpCore.StreamingArchive.FileOrder
import ClpCore.Clp.Decompression
import ClpCore.Clp.Decompress
import ClpCore.SQLiteDB
